import SqlCompiler.Proofs.Retention.Parts
import SqlCompiler.Schema.Compile

namespace SqlCompiler

inductive Declaration
  | numbering (column : Column)
  | constraint (command : Command)

inductive TablePart
  | text (s : String)
  | declares (what : Declaration) (s : String)

namespace TablePart

def sql : TablePart → String
  | text s | declares _ s => s

def declaration? : TablePart → Option Declaration
  | text _ => none
  | declares what _ => some what

def textOf (parts : List TablePart) : String := String.join (parts.map sql)

def declarationsOf (parts : List TablePart) : List Declaration := parts.filterMap declaration?

def join (separator : String) (lists : List (List TablePart)) : List TablePart := [text separator].intercalate lists

@[simp]
theorem sql_text (s : String) : (text s).sql = s := rfl

@[simp]
theorem sql_declares (what : Declaration) (s : String) : (declares what s).sql = s := rfl

@[simp]
theorem textOf_nil : textOf [] = "" := rfl

@[simp]
theorem textOf_cons (part : TablePart) (parts : List TablePart) :
    textOf (part :: parts) = part.sql ++ textOf parts := by
  simp [textOf, String.join_cons]

@[simp]
theorem textOf_append (a b : List TablePart) : textOf (a ++ b) = textOf a ++ textOf b := by
  simp [textOf, String.join_append]

theorem join_cons_cons (separator : String) (first next : List TablePart) (rest : List (List TablePart)) :
    join separator (first :: next :: rest) = first ++ text separator :: join separator (next :: rest) := by
  rw [join, List.intercalate_cons_cons, ← join, List.append_assoc, List.singleton_append]

@[simp]
theorem textOf_join (separator : String) (lists : List (List TablePart)) :
    textOf (join separator lists) = separator.intercalate (lists.map textOf) := by
  induction lists with
  | nil => rfl
  | cons first rest ih =>
    cases rest with
    | nil => simp [join]
    | cons next rest =>
      rw [join_cons_cons, textOf_append, textOf_cons, ih]
      simp [sql, String.append_assoc]

theorem textOf_single {part : String → TablePart} (same : ∀ s, (part s).sql = s)
    (statements : Except Error (List String)) :
    List.map textOf <$> (do return (← statements).map ([part ·])) = statements := by
  simp [Function.comp_def, same]

@[simp]
theorem declarationsOf_text (s : String) (parts : List TablePart) :
    declarationsOf (text s :: parts) = declarationsOf parts := rfl

@[simp]
theorem declarationsOf_declares (what : Declaration) (s : String) (parts : List TablePart) :
    declarationsOf (declares what s :: parts) = what :: declarationsOf parts := rfl

@[simp]
theorem declarationsOf_append (a b : List TablePart) : declarationsOf (a ++ b) = declarationsOf a ++ declarationsOf b :=
  List.filterMap_append

end TablePart

namespace Target

open TablePart

def numberingPlace (t : Target) : Nat :=
  match t.dialect with
  | .postgres => 6
  | .mysql => 9
  | .sqlite => 0
  | .sqlServer => 4

def numbering (t : Target) (b : Blueprint) (c : Column) : String :=
  match t.dialect with
  | .postgres => postgresIncrement b c
  | .mysql => mysqlIncrement b c
  | .sqlite => wordsIf (c.autoIncrement && c.type.isSerial) " PRIMARY KEY AUTOINCREMENT"
  | .sqlServer => sqlServerIncrement b c

def definitionParts (t : Target) (b : Blueprint) (c : Column) : Except Error (List TablePart) := do
  let type ← t.typeName c
  let words ← t.modifiers b c
  return [.text (t.column c.name ++ " " ++ type ++ String.join (words.take t.numberingPlace)),
    .declares (.numbering c) (t.numbering b c), .text (String.join (words.drop (t.numberingPlace + 1)))]

def definitionsParts (t : Target) (b : Blueprint) (word : String) : List Column → Except Error (List (List TablePart))
  | [] => .ok []
  | c :: rest => do
    let first ← t.definitionParts b c
    let later ← t.definitionsParts b word rest
    return (.text word :: first) :: later

/-- The keys that a dialect writes into a table when it creates it. -/
def innerKeys (t : Target) (b : Blueprint) : List Command :=
  match t.dialect with
  | .postgres | .sqlServer => []
  | .mysql => (b.primaryKeys.take 1).map (.index .primary)
  | .sqlite => b.foreignKeys.map .foreign ++ (b.primaryKeys.take 1).map (.index .primary)

def innerKeyText (t : Target) : Command → String
  | .index _ i =>
    match t.dialect with
    | .mysql => "PRIMARY KEY" ++ usingWords i ++ " (" ++ t.columns i.columns ++ ")"
    | _ => "PRIMARY KEY (" ++ t.columns i.columns ++ ")"
  | .foreign k => t.foreignKeyClause k
  | _ => ""

def innerKeyPart (t : Target) (command : Command) : TablePart :=
  .declares (.constraint command) (t.innerKeyText command)

def createParts (t : Target) (b : Blueprint) : Except Error (List TablePart) := do
  let definitions ← t.definitionsParts b "" b.columns
  let keys := (t.innerKeys b).map t.innerKeyPart
  match t.dialect with
  | .postgres =>
    return .text ("CREATE " ++ temporaryWord b ++ "TABLE " ++ t.tableOf b ++ " (") ::
      join ", " definitions ++ [.text ")"]
  | .mysql =>
    let options ← t.mysqlTableOptions b
    return .text ("CREATE " ++ temporaryWord b ++ "TABLE " ++ t.tableOf b ++ " (") ::
      join ", " (definitions ++ keys.map ([·])) ++ [.text (")" ++ options)]
  | .sqlite =>
    return .text ("CREATE " ++ temporaryWord b ++ "TABLE " ++ t.tableOf b ++ " (") :: join ", " definitions ++
      keys.flatMap ([.text ", ", ·]) ++ [.text ")"]
  | .sqlServer => return .text ("CREATE TABLE " ++ t.tableOf b ++ " (") :: join ", " definitions ++ [.text ")"]

def alterParts (t : Target) (b : Blueprint) (change : List TablePart) : List TablePart :=
  .text ("ALTER TABLE " ++ t.tableOf b ++ " ") :: change

def sqliteAdditionParts (t : Target) (b : Blueprint) : List Column → Except Error (List (List TablePart))
  | [] => .ok []
  | c :: rest =>
    if c.storedAs.isSome then
      t.unsupported .addingStoredColumns
    else do
      let first ← t.definitionParts b c
      let later ← t.sqliteAdditionParts b rest
      return t.alterParts b (.text "ADD COLUMN " :: first) :: later

def addParts (t : Target) (b : Blueprint) : Except Error (List (List TablePart)) :=
  match t.dialect with
  | .postgres => do
    let definitions ← t.definitionsParts b "ADD COLUMN " b.addedColumns
    return [t.alterParts b (join ", " definitions)]
  | .mysql => do
    let definitions ← t.definitionsParts b "ADD " b.addedColumns
    return [t.alterParts b (join ", " definitions)]
  | .sqlite => t.sqliteAdditionParts b b.addedColumns
  | .sqlServer => do
    let definitions ← t.definitionsParts b "" b.addedColumns
    return [t.alterParts b (.text "ADD " :: join ", " definitions)]

def changeParts (t : Target) (b : Blueprint) : Except Error (List (List TablePart)) :=
  match t.dialect with
  | .mysql => do
    let definitions ← t.definitionsParts b "MODIFY " b.changedColumns
    return [t.alterParts b (join ", " definitions)]
  | .postgres | .sqlite | .sqlServer => do
    let statements ← t.changeColumns b
    return statements.map ([.text ·])

variable {t : Target} {b : Blueprint} {c : Column}

theorem modifiers_at {words : List String} (said : t.modifiers b c = .ok words) :
    words = words.take t.numberingPlace ++ t.numbering b c :: words.drop (t.numberingPlace + 1) := by
  -- a dialect says things of a column in a fixed order, whatever it says of this one
  unfold modifiers at said
  unfold numberingPlace numbering
  cases dialect : t.dialect with
  | postgres =>
    simp only [dialect] at said
    obtain ⟨default_, -, said⟩ := ok_of_bind said
    obtain ⟨virtual, -, rfl⟩ := ok_of_map said
    rfl
  | mysql =>
    simp only [dialect] at said
    obtain ⟨collation, -, said⟩ := ok_of_bind said
    obtain ⟨default_, -, said⟩ := ok_of_bind said
    obtain ⟨comment, -, rfl⟩ := ok_of_map said
    rfl
  | sqlite =>
    simp only [dialect] at said
    obtain ⟨default_, -, said⟩ := ok_of_bind said
    obtain ⟨collation, -, rfl⟩ := ok_of_map said
    rfl
  | sqlServer =>
    simp only [dialect] at said
    obtain ⟨default_, -, rfl⟩ := ok_of_map said
    rfl

theorem textOf_definition : textOf <$> t.definitionParts b c = t.definition b c := by
  simp only [definition, definitionParts, map_bind, map_pure]
  refine bind_congr fun type => ?_
  cases said : t.modifiers b c with
  | error e => rfl
  | ok words =>
    have whole := congrArg String.join (modifiers_at said)
    rw [String.join_append, String.join_cons] at whole
    apply congrArg Except.ok
    simp only [textOf_cons, textOf_nil, sql_text, sql_declares, String.append_empty, String.append_assoc, whole]

theorem textOf_definitions (word : String) (columns : List Column) :
    List.map textOf <$> t.definitionsParts b word columns = List.map (word ++ ·) <$> t.definitions b columns := by
  induction columns with
  | nil => rfl
  | cons c rest ih =>
    simp only [definitions, definitionsParts, ← textOf_definition, map_bind, map_pure, bind_map_left]
    refine bind_congr fun first => ?_
    have later := congrArg (List.cons (word ++ textOf first) <$> ·) ih
    simpa using later

theorem textOf_plainDefinitions (columns : List Column) :
    List.map textOf <$> t.definitionsParts b "" columns = t.definitions b columns := by
  have unchanged : (List.map fun s : String => "" ++ s) = id := by
    funext list
    simp
  rw [textOf_definitions, unchanged, id_map]

theorem mysqlPrimaryKeys_eq (dialect : t.dialect = .mysql) :
    t.mysqlPrimaryKeys b = (t.innerKeys b).map t.innerKeyText := by
  unfold mysqlPrimaryKeys innerKeys
  cases b.primaryKeys <;> simp [dialect, innerKeyText]

theorem sqliteKeys_eq (dialect : t.dialect = .sqlite) :
    t.sqliteKeys b = String.join ((t.innerKeys b).map fun key => ", " ++ t.innerKeyText key) := by
  have cut (s : String) : ", PRIMARY KEY (" ++ s = ", " ++ ("PRIMARY KEY (" ++ s) := by
    rw [← String.append_assoc]
    rfl
  unfold sqliteKeys innerKeys
  cases b.primaryKeys <;>
    simp [dialect, innerKeyText, Function.comp_def, String.join_append, String.join_cons, cut, String.append_assoc]

theorem textOf_flatMap_innerKeys (keys : List Command) :
    textOf ((keys.map t.innerKeyPart).flatMap ([.text ", ", ·])) =
      String.join (keys.map fun key => ", " ++ t.innerKeyText key) := by
  induction keys with
  | nil => rfl
  | cons key rest ih =>
    rw [List.map_cons, List.flatMap_cons, textOf_append, ih]
    simp [innerKeyPart, String.join_cons, String.append_assoc]

theorem textOf_create : (fun parts => [textOf parts]) <$> t.createParts b = t.createTable b := by
  simp only [createTable, createParts, ← textOf_plainDefinitions, map_bind, bind_map_left]
  refine bind_congr fun definitions => ?_
  cases dialect : t.dialect with
  | postgres => simp [String.append_assoc]
  | mysql => simp [mysqlPrimaryKeys_eq dialect, Function.comp_def, innerKeyPart, String.append_assoc]
  | sqlite => simp [textOf_flatMap_innerKeys, sqliteKeys_eq dialect, String.append_assoc]
  | sqlServer => simp [String.append_assoc]

theorem textOf_alter (change : List TablePart) : textOf (t.alterParts b change) = t.alter b (textOf change) := by
  simp [alterParts, alter, String.append_assoc]

theorem textOf_sqliteAdditions (columns : List Column) :
    List.map textOf <$> t.sqliteAdditionParts b columns = t.sqliteAdditions b columns := by
  induction columns with
  | nil => rfl
  | cons c rest ih =>
    unfold sqliteAdditionParts sqliteAdditions
    split
    · rfl
    · simp [← ih, ← textOf_definition, textOf_alter]

theorem textOf_alteration (word : String) (columns : List Column) :
    List.map textOf <$> (do return [t.alterParts b (join ", " (← t.definitionsParts b word columns))]) =
      do return [t.alter b (", ".intercalate ((← t.definitions b columns).map (word ++ ·)))] := by
  have same := congrArg ((fun list => [t.alter b (", ".intercalate list)]) <$> ·)
    (t.textOf_definitions (b := b) word columns)
  simpa [textOf_alter] using same

theorem textOf_add : List.map textOf <$> t.addParts b = t.addColumns b := by
  unfold addParts addColumns
  cases t.dialect with
  | postgres => exact textOf_alteration "ADD COLUMN " b.addedColumns
  | mysql => exact textOf_alteration "ADD " b.addedColumns
  | sqlite => exact textOf_sqliteAdditions b.addedColumns
  | sqlServer => simp [← textOf_plainDefinitions, textOf_alter]

theorem textOf_change : List.map textOf <$> t.changeParts b = t.changeColumns b := by
  unfold changeParts
  cases dialect : t.dialect with
  | mysql =>
    simp only [changeColumns, dialect]
    exact textOf_alteration "MODIFY " b.changedColumns
  | postgres | sqlite | sqlServer => exact textOf_single sql_text _

end Target

/-- The parts of the statements of a command. A key or an index that has a statement of its own is declared by it. -/
def Command.parts (t : Target) (b : Blueprint) : Command → Except Error (List (List TablePart))
  | .create => do return [← t.createParts b]
  | .add => t.addParts b
  | .change => t.changeParts b
  | .index kind i => do return (← t.addIndex b kind i).map ([.declares (.constraint (.index kind i)) ·])
  | .foreign key => do return (← t.addForeignKey b key).map ([.declares (.constraint (.foreign key)) ·])
  | other => do return (← other.statements t b).map ([.text ·])

theorem Command.textOf_parts (t : Target) (b : Blueprint) (command : Command) :
    List.map TablePart.textOf <$> command.parts t b = command.statements t b := by
  cases command with
  | create =>
    have same := Target.textOf_create (t := t) (b := b)
    simpa [Command.parts, Command.statements] using same
  | add => exact Target.textOf_add
  | change => exact Target.textOf_change
  | index kind i => exact TablePart.textOf_single (TablePart.sql_declares _) _
  | foreign key => exact TablePart.textOf_single (TablePart.sql_declares _) _
  | _ => exact TablePart.textOf_single TablePart.sql_text _

namespace Blueprint

def commandParts (t : Target) (b : Blueprint) : List Command → Except Error (List (List TablePart))
  | [] => .ok []
  | command :: rest => do
    let first ← command.parts t b
    let later ← b.commandParts t rest
    return first ++ later

def parts (t : Target) (b : Blueprint) : Except Error (List (List TablePart)) :=
  let completed := b.completed t
  completed.commandParts t completed.commands

variable {t : Target} {b : Blueprint}

theorem textOf_commandParts (commands : List Command) :
    List.map TablePart.textOf <$> b.commandParts t commands = b.commandStatements t commands := by
  induction commands with
  | nil => rfl
  | cons command rest ih => simp [commandParts, commandStatements, ← ih, ← Command.textOf_parts]

theorem textOf_parts : List.map TablePart.textOf <$> b.parts t = b.statements t := textOf_commandParts _

theorem parts_of_statements {statements : List String} (compiled : b.statements t = .ok statements) :
    ∃ parts, b.parts t = .ok parts ∧ parts.map TablePart.textOf = statements := by
  rw [← textOf_parts] at compiled
  cases found : b.parts t with
  | error e =>
    rw [found] at compiled
    cases compiled
  | ok parts =>
    rw [found] at compiled
    cases compiled
    exact ⟨parts, rfl, rfl⟩

end Blueprint

end SqlCompiler
