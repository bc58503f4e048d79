import SqlCompiler.Schema.TypeName

namespace SqlCompiler

namespace Target

def currentTimestamp (t : Target) (precision : Option UInt32) : String :=
  match t.dialect with
  | .mysql => sized "CURRENT_TIMESTAMP" precision
  | .postgres | .sqlite | .sqlServer => "CURRENT_TIMESTAMP"

def effectiveDefault (t : Target) (c : Column) : Option DefaultValue :=
  match c.defaultValue, c.type.temporalPrecision? with
  | some value, _ => some value
  | none, some precision => if c.useCurrent then some (.expression (t.currentTimestamp precision)) else none
  | none, none => none

def defaultLiteral (t : Target) : DefaultValue → Except Error String
  | .null => .ok "NULL"
  | .bool b => .ok (t.dialect.boolLiteral b)
  | .integer n => .ok (toString n.toInt)
  | .float x => t.dialect.literal (.float x)
  | .text s => t.quote s
  | .expression sql => .ok sql

def defaultClause (t : Target) (c : Column) : Except Error String :=
  match t.effectiveDefault c with
  | none => .ok ""
  | some value => do return " DEFAULT " ++ (← t.defaultLiteral value)

def wordsIf (condition : Bool) (words : String) : String := if condition then words else ""

def around (before : String) (text : Option String) (after : String) : String :=
  match text with
  | none => ""
  | some s => before ++ s ++ after

def quoted (t : Target) (before : String) (text : Option String) : Except Error String :=
  match text with
  | none => .ok ""
  | some s => do return before ++ (← t.quote s)

def nullWord (c : Column) : String := if c.isNullable then " NULL" else " NOT NULL"

/-- Only what is said of a derived column is written of it. -/
def refusesNull (c : Column) : String := wordsIf (c.nullable = some false) " NOT NULL"

def mysqlOnUpdate (t : Target) (c : Column) : String :=
  match c.useCurrentOnUpdate, c.type.temporalPrecision? with
  | true, some precision => " ON UPDATE " ++ t.currentTimestamp precision
  | _, _ => around " ON UPDATE " c.onUpdate ""

/-- A column that numbers the rows is the primary key where no other is declared over it. -/
def mysqlIncrement (b : Blueprint) (c : Column) : String :=
  if !c.autoIncrement || !c.type.isSerial then ""
  else if c.change || b.hasPrimaryOn c.name then " AUTO_INCREMENT"
  else " AUTO_INCREMENT PRIMARY KEY"

def mysqlModifiers (t : Target) (b : Blueprint) (c : Column) : Except Error (List String) := do
  return [
    wordsIf c.unsigned " UNSIGNED",
    around " CHARACTER SET " c.charset "",
    ← t.quoted " COLLATE " c.collation,
    around " AS (" c.virtualAs ")",
    around " AS (" c.storedAs ") STORED",
    if c.isDerived then refusesNull c else nullWord c,
    ← t.defaultClause c,
    t.mysqlOnUpdate c,
    wordsIf c.invisible " INVISIBLE",
    mysqlIncrement b c,
    ← t.quoted " COMMENT " c.comment,
    around " AFTER " (c.after.map t.column) "",
    wordsIf c.first " FIRST"]

def identityWords? (c : Column) : Option String :=
  c.identity.map fun options =>
    "GENERATED " ++ (if c.always then "ALWAYS" else "BY DEFAULT") ++ " AS IDENTITY" ++
      (if options = "" then "" else " (" ++ options ++ ")")

def postgresVirtual (t : Target) (c : Column) : Except Error String :=
  if c.virtualAs.isSome then t.unsupported .virtualColumns else .ok ""

def postgresIncrement (b : Blueprint) (c : Column) : String :=
  wordsIf (c.autoIncrement && (c.type.isSerial || c.identity.isSome) && !c.change && b.primaryKeys.isEmpty)
    " PRIMARY KEY"

def postgresModifiers (t : Target) (b : Blueprint) (c : Column) : Except Error (List String) := do
  return [
    around " COLLATE " (c.collation.map t.column) "",
    if c.isGenerated && c.nullable.isNone then "" else nullWord c,
    ← t.defaultClause c,
    ← t.postgresVirtual c,
    around " GENERATED ALWAYS AS (" c.storedAs ") STORED",
    around " " (identityWords? c) "",
    postgresIncrement b c]

def sqliteModifiers (t : Target) (c : Column) : Except Error (List String) := do
  return [
    wordsIf (c.autoIncrement && c.type.isSerial) " PRIMARY KEY AUTOINCREMENT",
    if c.isDerived then refusesNull c else wordsIf (!c.isNullable) " NOT NULL",
    ← (if c.isDerived then .ok "" else t.defaultClause c),
    ← t.quoted " COLLATE " c.collation,
    around " AS (" c.virtualAs ")",
    around " AS (" c.storedAs ") STORED"]

def sqlServerIncrement (b : Blueprint) (c : Column) : String :=
  if c.change || !c.autoIncrement || !c.type.isSerial then ""
  else if b.primaryKeys.isEmpty then " IDENTITY PRIMARY KEY"
  else " IDENTITY"

def sqlServerModifiers (t : Target) (b : Blueprint) (c : Column) : Except Error (List String) := do
  return [
    around " COLLATE " c.collation "",
    if c.type.isComputed then "" else nullWord c,
    ← t.defaultClause c,
    wordsIf (c.persisted && c.type.isComputed) " PERSISTED",
    sqlServerIncrement b c]

def modifiers (t : Target) (b : Blueprint) (c : Column) : Except Error (List String) :=
  match t.dialect with
  | .postgres => t.postgresModifiers b c
  | .mysql => t.mysqlModifiers b c
  | .sqlite => t.sqliteModifiers c
  | .sqlServer => t.sqlServerModifiers b c

def definition (t : Target) (b : Blueprint) (c : Column) : Except Error String := do
  let type ← t.typeName c
  return t.column c.name ++ " " ++ type ++ String.join (← t.modifiers b c)

def definitions (t : Target) (b : Blueprint) : List Column → Except Error (List String)
  | [] => .ok []
  | c :: rest => do
    let first ← t.definition b c
    let later ← t.definitions b rest
    return first :: later

end Target

end SqlCompiler
