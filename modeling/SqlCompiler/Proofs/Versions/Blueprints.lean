import SqlCompiler.Proofs.Versions.Writes
import SqlCompiler.Schema.Compile

namespace SqlCompiler

theorem Lasts.gated {α : Type} {same : Prop} {gate gate' : Bool} {a : α} {refused : Except Error α}
    (opened : gate → gate') (equal : same → gate = gate') :
    Lasts same (if gate then .ok a else refused) (if gate' then .ok a else refused) := by
  cases gate with
  | true =>
    rw [opened rfl]
    exact .of_eq rfl
  | false =>
    cases gate' with
    | true => exact ⟨fun _ => rfl, fun all => by cases equal all⟩
    | false => exact .of_eq rfl

namespace Target

section

variable (t : Target) (v : Option Version)

@[simp]
theorem versioned_tableOf : (t.versioned v).tableOf = t.tableOf := by
  funext b
  simp only [tableOf, versioned_table, versioned_dialect, versioned_tablePrefix]

@[simp]
theorem versioned_alter : (t.versioned v).alter = t.alter := by
  funext b change
  unfold alter
  rw [versioned_tableOf]

@[simp]
theorem versioned_quote : (t.versioned v).quote = t.quote := rfl

@[simp]
theorem versioned_quotes : (t.versioned v).quotes = t.quotes := by
  funext texts
  induction texts with
  | nil => rfl
  | cons s texts ih => simp only [quotes, ih, versioned_quote]

@[simp]
theorem versioned_wideLiteral : (t.versioned v).wideLiteral = t.wideLiteral := rfl

@[simp]
theorem versioned_quoted : (t.versioned v).quoted = t.quoted := by
  funext before text
  cases text <;> simp only [quoted, versioned_quote]

@[simp]
theorem versioned_oneOf : (t.versioned v).oneOf = t.oneOf := by
  funext column allowed
  simp only [oneOf, versioned_column, versioned_quotes]

@[simp]
theorem versioned_currentTimestamp : (t.versioned v).currentTimestamp = t.currentTimestamp := by
  funext precision
  simp only [currentTimestamp, versioned_dialect]

@[simp]
theorem versioned_effectiveDefault : (t.versioned v).effectiveDefault = t.effectiveDefault := by
  funext c
  simp only [effectiveDefault, versioned_currentTimestamp]

@[simp]
theorem versioned_defaultLiteral : (t.versioned v).defaultLiteral = t.defaultLiteral := by
  funext value
  cases value <;> simp only [defaultLiteral, versioned_quote, versioned_dialect]

@[simp]
theorem versioned_defaultClause : (t.versioned v).defaultClause = t.defaultClause := by
  funext c
  simp only [defaultClause, versioned_effectiveDefault, versioned_defaultLiteral]

@[simp]
theorem versioned_foreignKeyClause : (t.versioned v).foreignKeyClause = t.foreignKeyClause := by
  funext k
  unfold foreignKeyClause
  rw [versioned_table, versioned_columns]

@[simp]
theorem versioned_createIndex : (t.versioned v).createIndex = t.createIndex := by
  funext b kind using_ i
  unfold createIndex
  rw [versioned_column, versioned_columns, versioned_tableOf]

@[simp]
theorem versioned_mysqlIndex : (t.versioned v).mysqlIndex = t.mysqlIndex := by
  funext b kind i
  simp only [mysqlIndex, versioned_column, versioned_columns, versioned_alter]

@[simp]
theorem versioned_dropConstraint : (t.versioned v).dropConstraint = t.dropConstraint := by
  funext b name
  simp only [dropConstraint, versioned_alter, versioned_column]

@[simp]
theorem versioned_dropIndex : (t.versioned v).dropIndex = t.dropIndex := by
  funext b name
  simp only [dropIndex, versioned_alter, versioned_column, versioned_tableOf, versioned_dialect]

@[simp]
theorem versioned_renamePart : (t.versioned v).renamePart = t.renamePart := by
  funext b old new kind
  simp only [renamePart, versioned_wideLiteral, versioned_tableOf, versioned_column]

@[simp]
theorem versioned_describe : (t.versioned v).describe = t.describe := rfl

theorem versioned_dropTableIfExists : (t.versioned v).dropTableIfExists = t.dropTableIfExists := by
  funext b
  simp only [dropTableIfExists, versioned_wideLiteral, versioned_tableOf, versioned_dialect]

theorem versioned_renameTable : (t.versioned v).renameTable = t.renameTable := by
  funext b new
  simp only [renameTable, versioned_wideLiteral, versioned_tableOf, versioned_table, versioned_alter,
    versioned_dialect]

end

section

variable {t : Target} {v : Option Version} (opens : t.OpensUp v)
include opens

theorem versioned_mysqlType (mysql : t.dialect = .mysql) : (t.versioned v).mysqlType = t.mysqlType := by
  have isMariadb : (t.versioned v).isMariadb = t.isMariadb := by
    have flavour := opens.mariadb
    simpa only [gates, versioned_dialect, mysql] using flavour
  have spatial : (t.versioned v).mysqlSpatial = t.mysqlSpatial := by
    funext subtype srid
    simp only [mysqlSpatial, isMariadb]
  have listed : (t.versioned v).mysqlListed = t.mysqlListed := by
    funext name allowed
    simp only [mysqlListed, versioned_quotes]
  funext type
  unfold mysqlType
  simp only [spatial, listed, versioned_unsupported opens]

theorem versioned_typeName : (t.versioned v).typeName = t.typeName := by
  funext c
  unfold typeName
  rw [versioned_dialect]
  cases dialect : t.dialect with
  | postgres => simp only [postgresType, versioned_oneOf, versioned_unsupported opens]
  | mysql => simp only [versioned_mysqlType opens dialect]
  | sqlite => simp only [sqliteType, versioned_oneOf, versioned_unsupported opens]
  | sqlServer => simp only [sqlServerType, versioned_oneOf, versioned_unsupported opens]

theorem versioned_modifiers : (t.versioned v).modifiers = t.modifiers := by
  funext b c
  simp only [modifiers, postgresModifiers, mysqlModifiers, sqliteModifiers, sqlServerModifiers, postgresVirtual,
    mysqlOnUpdate, versioned_column, versioned_quoted, versioned_defaultClause, versioned_currentTimestamp,
    versioned_dialect, versioned_unsupported opens]

theorem versioned_definition : (t.versioned v).definition = t.definition := by
  funext b c
  simp only [definition, versioned_column, versioned_typeName opens, versioned_modifiers opens]

theorem versioned_definitions : (t.versioned v).definitions = t.definitions := by
  funext b columns
  induction columns with
  | nil => rfl
  | cons c columns ih => simp only [definitions, ih, versioned_definition opens]

theorem versioned_createTable : (t.versioned v).createTable = t.createTable := by
  have options : (t.versioned v).mysqlTableOptions = t.mysqlTableOptions := by
    funext b
    unfold mysqlTableOptions
    rw [versioned_quoted]
    rfl
  funext b
  simp only [createTable, mysqlPrimaryKeys, sqliteKeys, options, versioned_definitions opens, versioned_tableOf,
    versioned_columns, versioned_foreignKeyClause, versioned_dialect]

theorem versioned_addColumns : (t.versioned v).addColumns = t.addColumns := by
  have additions : (t.versioned v).sqliteAdditions = t.sqliteAdditions := by
    funext b columns
    induction columns with
    | nil => rfl
    | cons c columns ih =>
      simp only [sqliteAdditions, ih, versioned_definition opens, versioned_alter, versioned_unsupported opens]
  funext b
  simp only [addColumns, additions, versioned_definitions opens, versioned_alter, versioned_dialect]

theorem versioned_changeColumns : (t.versioned v).changeColumns = t.changeColumns := by
  have changes : (t.versioned v).postgresChanges = t.postgresChanges := by
    funext c
    simp only [postgresChanges, versioned_typeName opens, versioned_effectiveDefault, versioned_defaultLiteral,
      versioned_column, versioned_unsupported opens]
  have alterations : (t.versioned v).postgresAlterations = t.postgresAlterations := by
    funext columns
    induction columns with
    | nil => rfl
    | cons c columns ih => simp only [postgresAlterations, ih, changes, versioned_column]
  funext b
  simp only [changeColumns, alterations, versioned_definitions opens, versioned_alter, versioned_dialect,
    versioned_unsupported opens]

theorem versioned_addIndex : (t.versioned v).addIndex = t.addIndex := by
  funext b kind i
  cases kind with
  | primary =>
    simp only [addIndex, addPrimaryKey, versioned_alter, versioned_column, versioned_columns, versioned_dialect,
      versioned_unsupported opens]
  | unique =>
    simp only [addIndex, addUnique, versioned_createIndex, versioned_mysqlIndex, versioned_alter, versioned_column,
      versioned_columns, versioned_dialect]
  | plain => simp only [addIndex, addPlainIndex, versioned_createIndex, versioned_mysqlIndex, versioned_dialect]
  | fullText =>
    simp only [addIndex, addFullTextIndex, versioned_quote, versioned_column, versioned_tableOf, versioned_mysqlIndex,
      versioned_dialect, versioned_unsupported opens]
  | spatial =>
    simp only [addIndex, addSpatialIndex, versioned_createIndex, versioned_mysqlIndex, versioned_dialect,
      versioned_unsupported opens]

theorem versioned_addForeignKey : (t.versioned v).addForeignKey = t.addForeignKey := by
  funext b k
  simp only [addForeignKey, versioned_alter, versioned_column, versioned_foreignKeyClause, versioned_dialect,
    versioned_unsupported opens]

theorem versioned_dropPrimaryKey : (t.versioned v).dropPrimaryKey = t.dropPrimaryKey := by
  funext b name
  simp only [dropPrimaryKey, postgresPrimaryKey, versioned_dropConstraint, versioned_alter, versioned_tablePrefix,
    versioned_dialect, versioned_unsupported opens]

theorem versioned_renameIndex : (t.versioned v).renameIndex = t.renameIndex := by
  funext b old new
  simp only [renameIndex, versioned_renamePart, versioned_alter, versioned_column, versioned_dialect,
    versioned_unsupported opens]

theorem versioned_commentTable : (t.versioned v).commentTable = t.commentTable := by
  funext b comment
  simp only [commentTable, versioned_describe, versioned_alter, versioned_tableOf, versioned_quote, versioned_dialect,
    versioned_unsupported opens]

theorem versioned_commentColumn : (t.versioned v).commentColumn = t.commentColumn := by
  funext b column comment
  simp only [commentColumn, versioned_describe, versioned_column, versioned_tableOf, versioned_quote,
    versioned_dialect, versioned_unsupported opens]

theorem versioned_startNumbering : (t.versioned v).startNumbering = t.startNumbering := by
  funext b column value
  simp only [startNumbering, versioned_table, versioned_alter, versioned_dialect, versioned_unsupported opens]

theorem dropColumns_lasts (b : Blueprint) (columns : List String) :
    Lasts (t.gates = (t.versioned v).gates) (t.dropColumns b columns) ((t.versioned v).dropColumns b columns) := by
  have sqlServer : (t.versioned v).dropDefaults = t.dropDefaults := by
    funext b columns
    simp only [dropDefaults, versioned_quotes, versioned_quote, versioned_alter, versioned_wideLiteral,
      versioned_tableOf]
  unfold dropColumns
  rw [versioned_dialect, versioned_alter, versioned_column, versioned_columns, sqlServer, versioned_unsupported opens]
  cases dialect : t.dialect with
  | postgres => exact .of_eq rfl
  | mysql => exact .of_eq rfl
  | sqlite =>
    have gate (t : Target) (sqlite : t.dialect = .sqlite) (a b : Except Error (List String)) :
        (if t.olderThan 3 35 0 then a else b) = if t.gates.dropsColumns then b else a := by
      simp only [gates, sqlite]
      cases t.olderThan 3 35 0 <;> rfl
    simp only [gate t dialect, gate (t.versioned v) dialect]
    exact .gated opens.dropsColumns fun all => congrArg Gates.dropsColumns all
  | sqlServer => exact .of_eq rfl

theorem renameColumn_lasts (b : Blueprint) (old new : String) :
    Lasts (t.gates = (t.versioned v).gates) (t.renameColumn b old new)
      ((t.versioned v).renameColumn b old new) := by
  unfold renameColumn
  rw [versioned_dialect, versioned_alter, versioned_column, versioned_renamePart, versioned_unsupported opens,
    versioned_unsupported opens]
  cases dialect : t.dialect with
  | postgres => exact .of_eq rfl
  | mysql =>
    have gate (t : Target) (mysql : t.dialect = .mysql) : t.renamesColumns = t.gates.renamesColumns := by
      simp only [gates, mysql, renamesColumns]
    simp only [gate t dialect, gate (t.versioned v) dialect]
    exact .gated opens.renamesColumns fun all => congrArg Gates.renamesColumns all
  | sqlite =>
    have gate (t : Target) (sqlite : t.dialect = .sqlite) (a b : Except Error (List String)) :
        (if t.olderThan 3 25 0 then a else b) = if t.gates.renamesColumns then b else a := by
      simp only [gates, sqlite]
      cases t.olderThan 3 25 0 <;> rfl
    simp only [gate t dialect, gate (t.versioned v) dialect]
    exact .gated opens.renamesColumns fun all => congrArg Gates.renamesColumns all
  | sqlServer => exact .of_eq rfl

end

end Target

variable {t : Target} {v : Option Version}

theorem Command.statements_lasts (opens : t.OpensUp v) (b : Blueprint) (command : Command) :
    Lasts (t.gates = (t.versioned v).gates) (command.statements t b) (command.statements (t.versioned v) b) := by
  cases command with
  | dropColumn columns => exact Target.dropColumns_lasts opens b columns
  | renameColumn old new => exact Target.renameColumn_lasts opens b old new
  | _ =>
    apply Lasts.of_eq
    simp only [statements, Target.versioned_createTable opens, Target.versioned_addColumns opens,
      Target.versioned_changeColumns opens, Target.versioned_addIndex opens, Target.versioned_addForeignKey opens,
      Target.versioned_dropPrimaryKey opens, Target.versioned_renameIndex opens, Target.versioned_commentTable opens,
      Target.versioned_commentColumn opens, Target.versioned_startNumbering opens, Target.dropTable,
      Target.dropUnique, Target.dropFullTextIndex, Target.dropSpatialIndex, Target.dropForeignKey,
      Target.versioned_dropTableIfExists, Target.versioned_renameTable, Target.versioned_dropConstraint,
      Target.versioned_dropIndex, Target.versioned_alter, Target.versioned_column, Target.versioned_tableOf,
      Target.versioned_dialect, Target.versioned_unsupported opens]

namespace Blueprint

theorem versioned_completed (t : Target) (v : Option Version) (b : Blueprint) :
    b.completed (t.versioned v) = b.completed t := by
  have named : b.named (t.versioned v) = b.named t := by
    funext command
    cases command <;> simp only [Blueprint.named, Target.versioned_tablePrefix]
  simp only [completed, followUps, named, Target.versioned_dialect]

theorem commandStatements_lasts (opens : t.OpensUp v) (b : Blueprint) (commands : List Command) :
    Lasts (t.gates = (t.versioned v).gates) (b.commandStatements t commands)
      (b.commandStatements (t.versioned v) commands) := by
  induction commands with
  | nil => exact .of_eq rfl
  | cons command commands ih =>
    exact (Command.statements_lasts opens b command).bind fun _ _ first => ih.map fun _ _ later all => by
      rw [first all, later all]

theorem statements_lasts (opens : t.OpensUp v) (b : Blueprint) :
    Lasts (t.gates = (t.versioned v).gates) (b.statements t) (b.statements (t.versioned v)) := by
  unfold statements
  rw [versioned_completed]
  exact commandStatements_lasts opens _ _

end Blueprint

end SqlCompiler
