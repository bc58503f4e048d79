import SqlCompiler.Catalog.Question
import SqlCompiler.Schema.Compile
import SqlCompiler.Proofs.Quoting.QualifiedColumns
import SqlCompiler.Proofs.Quoting.QuotedNames

namespace SqlCompiler

namespace Text

theorem splitFirst_eq_none {sep : Char} {cs : List Char} (absent : sep ∉ cs) : splitFirst sep cs = none := by
  induction cs with
  | nil => rfl
  | cons c cs ih =>
    simp only [List.mem_cons, not_or] at absent
    simp [splitFirst, Ne.symm absent.1, ih absent.2]

theorem splitFirst_append {sep : Char} {cs : List Char} (absent : sep ∉ cs) (ds : List Char) :
    splitFirst sep (cs ++ sep :: ds) = some (cs, ds) := by
  induction cs with
  | nil => simp [splitFirst]
  | cons c cs ih =>
    simp only [List.mem_cons, not_or] at absent
    simp [splitFirst, Ne.symm absent.1, ih absent.2]

end Text

structure TableRef where
  schema : Option String
  table : String
deriving DecidableEq

namespace TableRef

def quoted (d : Dialect) (r : TableRef) : String :=
  Target.around "" (r.schema.map d.quoteName) "." ++ d.quoteName r.table

/-- What is referred to is the table that is named. A name without a schema leaves the schema open. -/
structure LeadsTo (r named : TableRef) : Prop where
  table : r.table = named.table
  schema : ∀ schema ∈ named.schema, r.schema = some schema

structure Clean (r : TableRef) : Prop where
  table : '\x00' ∉ r.table.toList
  schema : ∀ schema ∈ r.schema, '\x00' ∉ schema.toList

end TableRef

/-- The word is a literal that says the text. The literals of SQL Server have an `N` in front. -/
def Dialect.Denotes (d : Dialect) (word said : String) : Prop :=
  ∃ literal, word = (if d = .sqlServer then "N" else "") ++ literal ∧ d.readLiteral literal = some (said, "")

/-- The words are literals of a table and of its schema; a schema that is not said has no literal. -/
structure TableRef.WrittenAs (r : TableRef) (d : Dialect) (schema : Option String) (table : String) : Prop where
  table : d.Denotes table r.table
  schema : Option.Rel d.Denotes schema r.schema

inductive TableQuestion
  | columns
  | indexes
  | foreignKeys

namespace TableQuestion

def ask (t : Target) (given : Option String) (name : String) : TableQuestion → Except Error String
  | .columns => t.columnsQuery given name
  | .indexes => t.indexesQuery given name
  | .foreignKeys => t.foreignKeysQuery given name

def text (d : Dialect) (schema : Option String) (table : String) (question : TableQuestion) : String :=
  let area := schema.getD (Target.presentSchema d)
  let arguments := table ++ Target.around ", " schema ""
  match question, d with
  | .columns, .postgres => Target.postgresColumns area table
  | .columns, .mysql => Target.mysqlColumns area table
  | .columns, .sqlServer => Target.sqlServerColumns area table
  | .columns, .sqlite => Target.sqliteColumns arguments
  | .indexes, .postgres => Target.postgresIndexes area table
  | .indexes, .mysql => Target.mysqlIndexes area table
  | .indexes, .sqlServer => Target.sqlServerIndexes area table
  | .indexes, .sqlite => Target.sqliteIndexes arguments
  | .foreignKeys, .postgres => Target.postgresForeignKeys area table
  | .foreignKeys, .mysql => Target.mysqlForeignKeys area table
  | .foreignKeys, .sqlServer => Target.sqlServerForeignKeys area table
  | .foreignKeys, .sqlite => Target.sqliteForeignKeys arguments

/-- What the question holds of the table: the tests by which the catalog finds it, or for SQLite the functions that are
called with it. -/
def tests (d : Dialect) (schema : Option String) (table : String) (question : TableQuestion) : List String :=
  let area := schema.getD (Target.presentSchema d)
  let arguments := table ++ Target.around ", " schema ""
  match question, d with
  | .columns, .postgres => ["c.relname = " ++ table, "n.nspname = " ++ area]
  | .indexes, .postgres | .foreignKeys, .postgres => ["tc.relname = " ++ table, "tn.nspname = " ++ area]
  | .columns, .mysql | .indexes, .mysql => ["table_schema = " ++ area, "table_name = " ++ table]
  | .foreignKeys, .mysql => ["kc.table_schema = " ++ area, "kc.table_name = " ++ table]
  | .columns, .sqlServer => ["obj.name = " ++ table, "scm.name = " ++ area]
  | .indexes, .sqlServer => ["tbl.name = " ++ table, "scm.name = " ++ area]
  | .foreignKeys, .sqlServer => ["lt.name = " ++ table, "ls.name = " ++ area]
  | .columns, .sqlite => ["pragma_table_xinfo(" ++ arguments]
  | .indexes, .sqlite => ["pragma_table_info(" ++ arguments, "pragma_index_list(" ++ arguments]
  | .foreignKeys, .sqlite => ["pragma_foreign_key_list(" ++ arguments]

end TableQuestion

theorem TableQuestion.tests_inOrder (d : Dialect) (schema : Option String) (table : String)
    (question : TableQuestion) : InOrder (question.tests d schema table) (question.text d schema table) := by
  -- the words of a test end one piece of the text, and what they are compared with is the next piece
  cases question <;> cases d
  case columns.sqlite | foreignKeys.sqlite =>
    iterate 2 refine .joined ?_
    exact .after (.behind_word (by decide +kernel) (breaks_literal (.inr (.inl rfl))) (.nil _)) _
  case indexes.sqlite =>
    iterate 5 refine .joined ?_
    exact .after (.behind_word (by decide +kernel) (breaks_chars (.inr (.inl rfl)) _)
      (.after (.behind_word (by decide +kernel) (breaks_literal (.inr (.inl rfl))) (.nil _)) _)) _
  case columns.postgres | foreignKeys.mysql | foreignKeys.sqlServer =>
    iterate 5 refine .joined ?_
    exact .after (.behind_word (by decide +kernel) (breaks_chars (.inl rfl) _)
      (.behind_word (by decide +kernel) (breaks_chars (.inl rfl) _) (.nil _))) _
  all_goals
    iterate 4 refine .joined ?_
    exact .after (.behind_word (by decide +kernel) (breaks_chars (.inl rfl) _)
      (.behind_word (by decide +kernel) (breaks_literal (.inl rfl)) (.nil _))) _

namespace Target

variable {t : Target}

/-- The table that a statement names when it quotes a table. -/
def named (t : Target) (name : String) : TableRef :=
  match Text.splitLast '.' name.toList with
  | some (schema, name) => ⟨some (String.ofList schema), t.tablePrefix ++ String.ofList name⟩
  | none => ⟨none, t.tablePrefix ++ name⟩

theorem table_eq_quoted {name : String} (plain : Text.splitAlias name = none) :
    t.table name = (t.named name).quoted t.dialect := by
  rw [table, plain]
  cases found : Text.splitLast '.' name.toList <;> simp [plainTable, named, found, TableRef.quoted, around]

theorem named_of_whole {name : String} (whole : '.' ∉ name.toList) : t.named name = ⟨none, t.tablePrefix ++ name⟩ := by
  simp [named, Text.splitLast_eq_none whole]

theorem named_of_schema (schema : String) {name : String} (whole : '.' ∉ name.toList) :
    t.named (schema ++ "." ++ name) = ⟨some schema, t.tablePrefix ++ name⟩ := by
  simp [named, Text.splitLast_append _ whole]

/-- The table that the catalog is asked about. -/
def asked (t : Target) (given : Option String) (name : String) : TableRef :=
  let (schema, table) := if t.dialect = .mysql then (given, name) else schemaAndTable given name
  ⟨schema <|> t.schema, t.prefixed table⟩

def described (t : Target) (name : String) : TableRef := ⟨some (t.schema.getD "dbo"), t.tablePrefix ++ name⟩

def renumbered (t : Target) (name : String) : TableRef := ⟨none, t.tablePrefix ++ name⟩

theorem whole_leadsTo_iff {name : String} (dots : name.toList.count '.' ≤ 1) {r : TableRef}
    (whole : r.table = t.tablePrefix ++ name) : r.LeadsTo (t.named name) ↔ '.' ∉ name.toList := by
  rcases Text.plain_or_two_parts dots with single | ⟨schema, last, rfl, -, second⟩
  · rw [named_of_whole single]
    exact iff_of_true ⟨whole, by simp⟩ single
  · have dotted : '.' ∈ (schema ++ "." ++ last).toList := by simp
    refine iff_of_false (fun leads => ?_) (not_not.mpr dotted)
    have same := leads.table
    rw [whole, named_of_schema schema second, String.append_right_inj] at same
    exact second (same ▸ dotted)

theorem asked_leadsTo_iff (given : Option String) {name : String} (dots : name.toList.count '.' ≤ 1) :
    (t.asked given name).LeadsTo (t.named name) ↔ t.dialect ≠ .mysql ∨ '.' ∉ name.toList := by
  by_cases mysql : t.dialect = .mysql
  · have whole : (t.asked given name).table = t.tablePrefix ++ name := by simp [asked, mysql, prefixed]
    simp [whole_leadsTo_iff dots whole, mysql]
  · refine iff_of_true ?_ (.inl mysql)
    rcases Text.plain_or_two_parts dots with single | ⟨schema, last, rfl, first, second⟩
    · have cut : schemaAndTable given name = (given, name) := by simp [schemaAndTable, Text.splitFirst_eq_none single]
      exact (whole_leadsTo_iff dots (by simp [asked, mysql, cut, prefixed])).mpr single
    · have cut : schemaAndTable given (schema ++ "." ++ last) = (some schema, last) := by
        simp [schemaAndTable, Text.splitFirst_append first]
      rw [named_of_schema schema second]
      exact ⟨by simp [asked, mysql, cut, prefixed], by simp [asked, mysql, cut]⟩

theorem catalogLiteral_denotes {s word : String} (written : t.catalogLiteral s = .ok word) :
    t.dialect.Denotes word s := by
  unfold catalogLiteral at written
  split at written
  · rename_i server
    obtain ⟨literal, quoted, rfl⟩ := ok_of_map written
    have read := Dialect.readLiteral_textLiteral quoted "" (by simp)
    exact ⟨literal, by simp [server], by simpa using read⟩
  · rename_i other
    have read := Dialect.readLiteral_textLiteral written "" (by simp)
    exact ⟨word, by simp [other], by simpa using read⟩

theorem catalogLiteral_ok {s : String} (clean : '\x00' ∉ s.toList) : ∃ word, t.catalogLiteral s = .ok word := by
  have written := Dialect.textLiteral_eq t.dialect s
  rw [if_neg clean] at written
  unfold catalogLiteral wideLiteral quote
  rw [written]
  split <;> exact ⟨_, rfl⟩

def schemaLiteral (t : Target) : Option String → Except Error (Option String)
  | none => .ok none
  | some name => some <$> t.catalogLiteral name

theorem schemaLiteral_denotes {schema word : Option String} (written : t.schemaLiteral schema = .ok word) :
    Option.Rel t.dialect.Denotes word schema := by
  cases schema with
  | none =>
    cases written
    exact .none
  | some name =>
    obtain ⟨literal, found, rfl⟩ := ok_of_map written
    exact .some (catalogLiteral_denotes found)

theorem schemaLiteral_ok {schema : Option String} (clean : ∀ name ∈ schema, '\x00' ∉ name.toList) :
    ∃ word, t.schemaLiteral schema = .ok word := by
  cases schema with
  | none => exact ⟨none, rfl⟩
  | some name =>
    obtain ⟨word, found⟩ := t.catalogLiteral_ok (clean name rfl)
    exact ⟨some word, by rw [schemaLiteral, found]; rfl⟩

theorem askTable_eq (given : Option String) (name : String) (question : String → String → String) :
    t.askTable given name question = do
      let schema ← t.schemaLiteral (t.asked given name).schema
      let table ← t.catalogLiteral (t.asked given name).table
      return question (schema.getD (presentSchema t.dialect)) table := by
  unfold askTable asked
  generalize (if t.dialect = .mysql then (given, name) else schemaAndTable given name) = cut
  simp only [catalogSchema]
  cases cut.1 <|> t.schema with
  | none => rfl
  | some area =>
    simp only [schemaLiteral]
    cases t.catalogLiteral area <;> rfl

/-- SQLite is given the table before the schema. A literal is refused for one reason only, so the order is not seen. -/
theorem sqliteArguments_eq (sqlite : t.dialect = .sqlite) (given : Option String) (name : String) :
    t.sqliteArguments given name = do
      let schema ← t.schemaLiteral (t.asked given name).schema
      let table ← t.catalogLiteral (t.asked given name).table
      return table ++ around ", " schema "" := by
  have literal (s : String) : t.catalogLiteral s = t.quote s := by simp [catalogLiteral, sqlite]
  have cut : schemaAndTable (given <|> t.schema) name =
      ((t.asked given name).schema, (schemaAndTable given name).2) := by
    simp only [asked, sqlite, schemaAndTable]
    cases Text.splitFirst '.' name.toList <;> simp
  have table : (t.asked given name).table = t.prefixed (schemaAndTable given name).2 := by simp [asked, sqlite]
  unfold sqliteArguments
  simp only [cut, table, literal]
  cases (t.asked given name).schema with
  | none =>
    cases t.quote (t.prefixed (schemaAndTable given name).2) <;>
      simp [schemaLiteral, quoted, around, bind, Except.bind, pure, Except.pure]
  | some area =>
    simp only [schemaLiteral, quoted, literal]
    simp only [quote, Dialect.textLiteral_eq]
    split <;> split <;> simp [around, bind, Except.bind, Functor.map, Except.map, pure, Except.pure]

end Target

theorem TableQuestion.ask_eq (t : Target) (given : Option String) (name : String) (question : TableQuestion) :
    question.ask t given name = do
      let schema ← t.schemaLiteral (t.asked given name).schema
      let table ← t.catalogLiteral (t.asked given name).table
      return question.text t.dialect schema table := by
  cases question <;> cases dialect : t.dialect <;>
    simp [ask, text, Target.columnsQuery, Target.indexesQuery, Target.foreignKeysQuery, dialect, Target.askTable_eq,
      Target.sqliteArguments_eq]

theorem TableQuestion.ask_writes {t : Target} {given : Option String} {name sql : String} {question : TableQuestion}
    (asked : question.ask t given name = .ok sql) : ∃ schema table,
      (t.asked given name).WrittenAs t.dialect schema table ∧ sql = question.text t.dialect schema table := by
  rw [ask_eq] at asked
  obtain ⟨schema, area, asked⟩ := ok_of_bind asked
  obtain ⟨table, name, rfl⟩ := ok_of_map asked
  exact ⟨schema, table, ⟨Target.catalogLiteral_denotes name, Target.schemaLiteral_denotes area⟩, rfl⟩

theorem TableQuestion.ask_ok {t : Target} {given : Option String} {name : String} (clean : (t.asked given name).Clean)
    (question : TableQuestion) : ∃ sql, question.ask t given name = .ok sql := by
  obtain ⟨table, found⟩ := Target.catalogLiteral_ok clean.table
  obtain ⟨schema, area⟩ := Target.schemaLiteral_ok clean.schema
  exact ⟨question.text t.dialect schema table, by rw [ask_eq, area, found]; rfl⟩

def descriptionCall (comment schema table column : String) : String :=
  "EXEC sys.sp_addextendedproperty @name=N'MS_Description', @value=" ++ comment ++
    ", @level0type=N'SCHEMA', @level0name=" ++ schema ++ ", @level1type=N'TABLE', @level1name=" ++ table ++ column

def Command.comments : Command → Bool
  | .tableComment _ | .columnComment _ _ => true
  | _ => false

namespace Target

variable {t : Target}

theorem describe_writes (server : t.dialect = .sqlServer) {b : Blueprint} {comment sql : String}
    {column : Option String} (compiled : t.describe b comment column = .ok sql) : ∃ comment schema table column,
      (t.described b.table).WrittenAs t.dialect (some schema) table ∧
        sql = descriptionCall comment schema table column := by
  have denotes {s word : String} (written : t.wideLiteral s = .ok word) : t.dialect.Denotes word s :=
    catalogLiteral_denotes (by rwa [catalogLiteral, if_pos server])
  obtain ⟨comment, -, compiled⟩ := ok_of_bind compiled
  obtain ⟨schema, area, compiled⟩ := ok_of_bind compiled
  obtain ⟨table, name, compiled⟩ := ok_of_bind compiled
  have written : (t.described b.table).WrittenAs t.dialect (some schema) table := ⟨denotes name, .some (denotes area)⟩
  cases column with
  | none =>
    cases compiled
    exact ⟨comment, schema, table, "", written, rfl⟩
  | some column =>
    obtain ⟨word, -, rfl⟩ := ok_of_map compiled
    exact ⟨comment, schema, table, _, written, rfl⟩

theorem comments_write (server : t.dialect = .sqlServer) {b : Blueprint} {command : Command} {statements : List String}
    (comments : command.comments) (compiled : command.statements t b = .ok statements) :
    ∃ comment schema table column, (t.described b.table).WrittenAs t.dialect (some schema) table ∧
      statements = [descriptionCall comment schema table column] := by
  have single {comment : String} {column : Option String}
      (compiled : (do return [← t.describe b comment column]) = .ok statements) :
      ∃ comment schema table column, (t.described b.table).WrittenAs t.dialect (some schema) table ∧
        statements = [descriptionCall comment schema table column] := by
    obtain ⟨sql, described, rfl⟩ := ok_of_map compiled
    obtain ⟨comment, schema, table, column, written, rfl⟩ := describe_writes server described
    exact ⟨comment, schema, table, column, written, rfl⟩
  cases command <;> simp only [Command.comments, Bool.false_eq_true] at comments
  · simp only [Command.statements, commentTable, server] at compiled
    exact single compiled
  · simp only [Command.statements, commentColumn, server] at compiled
    exact single compiled

end Target

theorem Target.table_inert_sqlite {t : Target} (sqlite : t.dialect = .sqlite) {name : String}
    (plain : Text.splitAlias name = none) : t.dialect.Inert (t.table name) := by
  have quoted (s : String) : t.dialect.Inert (t.dialect.quoteName s) :=
    Dialect.quoteName_inert_of_same (by rw [sqlite]; rfl) s
  rw [table_eq_quoted plain]
  refine Dialect.Inert.append ?_ (quoted _)
  cases (t.named name).schema with
  | none => exact Dialect.inert_empty _
  | some schema => exact ((Dialect.inert_empty _).append (quoted schema)).append (Dialect.inert_chars rfl)

theorem Query.truncate_sqlite {t : Target} (sqlite : t.dialect = .sqlite) {q : Query} {name : String}
    (target : q.targetTable = .ok name) (plain : Text.splitAlias name = none) :
    q.truncate t = .ok [
      ⟨"DELETE FROM \"sqlite_sequence\" WHERE \"name\" = ?", [.text (t.renumbered name).table]⟩,
      ⟨"DELETE FROM " ++ t.table name, []⟩] := by
  have inert : t.dialect.Inert ("DELETE FROM " ++ t.table name) :=
    Dialect.Inert.append (Dialect.inert_chars rfl) (Target.table_inert_sqlite sqlite plain)
  rw [sqlite] at inert
  have reset (v : Value) : Dialect.sqlite.finish ("DELETE FROM " ++ Dialect.sqlite.quoteName "sqlite_sequence" ++
      " WHERE " ++ Dialect.sqlite.quoteName "name" ++ " = ?") [v] =
        .ok ⟨"DELETE FROM \"sqlite_sequence\" WHERE \"name\" = ?", [v]⟩ := rfl
  have delete : Dialect.sqlite.finish ("DELETE FROM " ++ t.table name) [] = .ok ⟨"DELETE FROM " ++ t.table name, []⟩ :=
    if_pos inert.count
  simp only [truncate, target, sqlite, bind, Except.bind, reset, delete]
  rfl

namespace Target

/-- A table is quoted as the one that is named. The catalog is asked about that table by literals, unless MySQL is asked
about a qualified name; comments of SQL Server and the numbering of SQLite are those of the table exactly if its name is
not qualified. -/
theorem tableLiterals_leadTo_iff (t : Target) {name : String} (plain : Text.splitAlias name = none)
    (dots : name.toList.count '.' ≤ 1) :
    t.table name = (t.named name).quoted t.dialect ∧
    (∀ (question : TableQuestion) (given : Option String),
      (∀ sql, question.ask t given name = .ok sql → ∃ schema table,
        (t.asked given name).WrittenAs t.dialect schema table ∧ sql = question.text t.dialect schema table ∧
          InOrder (question.tests t.dialect schema table) sql) ∧
      ((t.asked given name).Clean → ∃ sql, question.ask t given name = .ok sql) ∧
      ((t.asked given name).LeadsTo (t.named name) ↔ t.dialect ≠ .mysql ∨ '.' ∉ name.toList)) ∧
    (t.dialect = .sqlServer →
      (∀ (b : Blueprint) (command : Command) (statements : List String), b.table = name → command.comments →
        command.statements t b = .ok statements → ∃ comment schema table column,
          (t.described name).WrittenAs t.dialect (some schema) table ∧
            statements = [descriptionCall comment schema table column]) ∧
      ((t.described name).LeadsTo (t.named name) ↔ '.' ∉ name.toList)) ∧
    (t.dialect = .sqlite →
      (∀ q : Query, q.targetTable = .ok name → q.truncate t = .ok [
        ⟨"DELETE FROM \"sqlite_sequence\" WHERE \"name\" = ?", [.text (t.renumbered name).table]⟩,
        ⟨"DELETE FROM " ++ t.table name, []⟩]) ∧
      ((t.renumbered name).LeadsTo (t.named name) ↔ '.' ∉ name.toList)) := by
  refine ⟨table_eq_quoted plain, fun question given => ⟨?_, ?_, asked_leadsTo_iff given dots⟩, fun server => ⟨?_, ?_⟩,
    fun sqlite => ⟨?_, ?_⟩⟩
  · intro sql asked
    obtain ⟨schema, table, written, rfl⟩ := question.ask_writes asked
    exact ⟨schema, table, written, rfl, question.tests_inOrder t.dialect schema table⟩
  · exact fun clean => question.ask_ok clean
  · rintro b command statements rfl comments compiled
    exact comments_write server comments compiled
  · exact whole_leadsTo_iff dots rfl
  · exact fun q target => Query.truncate_sqlite sqlite target plain
  · exact whole_leadsTo_iff dots rfl

def prefixedServer : Target := { dialect := .sqlServer, tablePrefix := "app_" }

def prefixedFile : Target := { dialect := .sqlite, tablePrefix := "app_" }

/-- SQL Server is asked about the table in its schema, but a comment goes to another one. SQLite finds the numbering of
a table without a schema. -/
theorem auditEvents_leadsTo :
    (Text.splitAlias "audit.events" = none ∧ "audit.events".toList.count '.' ≤ 1) ∧
    prefixedServer.table "audit.events" = "[audit].[app_events]" ∧
    TableQuestion.columns.ask prefixedServer none "audit.events" = .ok (
      "SELECT col.name AS name, type.name AS type_name, col.max_length AS length, col.precision AS " ++
        "precision, col.scale AS places, col.is_nullable AS nullable, def.definition AS [default], " ++
        "col.is_identity AS autoincrement, col.collation_name AS collation, com.definition AS " ++
        "[expression], com.is_persisted AS [persisted], CAST(prop.value AS NVARCHAR(MAX)) AS comment FROM " ++
        "sys.columns AS col JOIN sys.types AS type ON col.user_type_id = type.user_type_id JOIN " ++
        "sys.objects AS obj ON col.object_id = obj.object_id JOIN sys.schemas AS scm ON obj.schema_id = " ++
        "scm.schema_id LEFT JOIN sys.default_constraints def ON col.default_object_id = def.object_id AND " ++
        "col.object_id = def.parent_object_id LEFT JOIN sys.extended_properties AS prop ON obj.object_id = " ++
        "prop.major_id AND col.column_id = prop.minor_id AND prop.name = 'MS_Description' LEFT JOIN " ++
        "sys.computed_columns AS com ON col.column_id = com.column_id AND col.object_id = com.object_id " ++
        "WHERE obj.type IN ('U', 'V') AND obj.name = " ++ "N'app_events'" ++ " AND scm.name = " ++ "N'audit'" ++
        " ORDER BY col.column_id") ∧
    (prefixedServer.asked none "audit.events").LeadsTo (prefixedServer.named "audit.events") ∧
    (Command.tableComment "kept").statements prefixedServer { table := "audit.events" } =
      .ok ["EXEC sys.sp_addextendedproperty @name=N'MS_Description', @value=N'kept', @level0type=N'SCHEMA', " ++
        "@level0name=N'dbo', @level1type=N'TABLE', @level1name=N'app_audit.events'"] ∧
    ¬ (prefixedServer.described "audit.events").LeadsTo (prefixedServer.named "audit.events") ∧
    (Query.firstOf "events").truncate prefixedFile = .ok [
      ⟨"DELETE FROM \"sqlite_sequence\" WHERE \"name\" = ?", [.text "app_events"]⟩,
      ⟨"DELETE FROM \"app_events\"", []⟩] ∧
    (prefixedFile.renumbered "events").LeadsTo (prefixedFile.named "events") := by
  have plain : Text.splitAlias "audit.events" = none := rfl
  have dots : "audit.events".toList.count '.' ≤ 1 := by decide
  obtain ⟨-, questions, comments, -⟩ := tableLiterals_leadTo_iff prefixedServer plain dots
  have single : Text.splitAlias "events" = none := rfl
  obtain ⟨-, -, -, numbering⟩ := tableLiterals_leadTo_iff prefixedFile single (by decide)
  refine ⟨⟨plain, dots⟩, by decide, rfl, ?_, congrArg Except.ok (by decide +kernel), fun leads => ?_, ?_, ?_⟩
  · exact (questions .columns none).2.2.mpr (.inl (by decide))
  · exact absurd ((comments rfl).2.mp leads) (by decide)
  · exact (numbering rfl).1 (Query.firstOf "events") rfl
  · exact (numbering rfl).2.mpr (by decide)

def prefixedMysql : Target := { dialect := .mysql, tablePrefix := "app_" }

/-- MySQL quotes a table of a schema and is asked about one whose name has a dot in it. -/
theorem auditEvents_asked_elsewhere :
    prefixedMysql.table "audit.events" = "`audit`.`app_events`" ∧
    TableQuestion.columns.ask prefixedMysql none "audit.events" = .ok (
      "SELECT column_name AS `name`, data_type AS `type_name`, column_type AS `type`, collation_name AS " ++
        "`collation`, is_nullable AS `nullable`, column_default AS `default`, column_comment AS `comment`, " ++
        "generation_expression AS `expression`, extra AS `extra` FROM information_schema.columns WHERE " ++
        "table_schema = " ++ "DATABASE()" ++ " AND table_name = " ++ "'app_audit.events'" ++
        " ORDER BY ordinal_position ASC") ∧
    ¬ (prefixedMysql.asked none "audit.events").LeadsTo (prefixedMysql.named "audit.events") :=
  ⟨by decide, rfl, fun leads => absurd leads.table (by decide)⟩

end Target

end SqlCompiler
