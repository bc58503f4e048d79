import SqlCompiler.Catalog.Info
import SqlCompiler.Catalog.Row
import SqlCompiler.Dialect

namespace SqlCompiler

def Row.text (r : Row) (name : String) : Except Error String :=
  match r.text? name with
  | some s => .ok s
  | none => .error (.rows (.noText name))

def readRows {α : Type} (read : Row → Except Error α) : List Row → Except Error (List α)
  | [] => .ok []
  | r :: rest => do
    let first ← read r
    let later ← readRows read rest
    return first :: later

namespace TableInfo

def ofRow (r : Row) : Except Error TableInfo := do
  return {
    name := ← r.text "name"
    schema := r.text? "schema"
    size := r.int? "size"
    comment := r.text? "comment"
    collation := r.text? "collation"
    engine := r.text? "engine" }

end TableInfo

namespace ViewInfo

def ofRow (r : Row) : Except Error ViewInfo := do
  return { name := ← r.text "name", schema := r.text? "schema", definition := ← r.text "definition" }

end ViewInfo

namespace ColumnInfo

def mysqlGeneration (r : Row) (extra : String) : Option Generation :=
  if Text.contains extra "virtual generated" then some ⟨.virtual, r.text? "expression"⟩
  else if Text.contains extra "stored generated" then some ⟨.stored, r.text? "expression"⟩
  else none

/-- MariaDB writes the text `NULL` for a column without a default. -/
def ofMysqlRow (r : Row) : Except Error ColumnInfo := do
  let extra := (r.word? "extra").getD ""
  return {
    name := ← r.text "name"
    typeName := Text.lowerAscii (← r.text "type_name")
    fullType := ← r.text "type"
    collation := r.text? "collation"
    nullable := r.flag "nullable"
    defaultText := (r.text? "default").filter (· ≠ "NULL")
    autoIncrement := Text.contains extra "auto_increment"
    comment := (r.text? "comment").filter (· ≠ "")
    generation := mysqlGeneration r extra }

def ofPostgresRow (r : Row) : Except Error ColumnInfo := do
  let fallback := r.text? "default"
  let stored := r.word? "generated" = some "s"
  return {
    name := ← r.text "name"
    typeName := Text.lowerAscii (← r.text "type_name")
    fullType := ← r.text "type"
    collation := r.text? "collation"
    nullable := r.flag "nullable"
    defaultText := if stored then none else fallback
    autoIncrement := r.flag "identity" || fallback.any ("nextval(".isPrefixOf ·)
    comment := r.text? "comment"
    generation := if stored then some ⟨.stored, fallback⟩ else none }

def sqliteGeneration (r : Row) : Option Generation :=
  match r.int? "extra" with
  | some 2 => some ⟨.virtual, none⟩
  | some 3 => some ⟨.stored, none⟩
  | _ => none

def ofSqliteRow (r : Row) : Except Error ColumnInfo := do
  let fullType := Text.lowerAscii (← r.text "type")
  let typeName := Text.strip (String.ofList (fullType.toList.takeWhile (· ≠ '(')))
  return {
    name := ← r.text "name"
    typeName
    fullType
    collation := none
    nullable := r.flag "nullable"
    defaultText := r.text? "default"
    autoIncrement := r.flag "primary" && typeName = "integer"
    comment := none
    generation := sqliteGeneration r }

def sqlServerType (typeName : String) (r : Row) : String :=
  let sized (n : Int) : String := typeName ++ "(" ++ toString n ++ ")"
  if typeName ∈ ["binary", "varbinary", "char", "varchar", "nchar", "nvarchar"] then
    match r.int? "length" with
    | none => typeName
    | some length =>
      if length = -1 then typeName ++ "(max)"
      else if "n".isPrefixOf typeName then sized (length.toInt.tdiv 2)
      else sized length.toInt
  else if typeName ∈ ["decimal", "numeric"] then
    typeName ++ "(" ++ toString ((r.int? "precision").getD 18).toInt ++ ", " ++
      toString ((r.int? "places").getD 0).toInt ++ ")"
  else if typeName ∈ ["float", "datetime2", "datetimeoffset", "time"] then
    match r.int? "precision" with
    | none => typeName
    | some precision => sized precision.toInt
  else
    typeName

def sqlServerGeneration (r : Row) : Option Generation :=
  (r.text? "expression").map fun expression =>
    ⟨if r.flag "persisted" then .stored else .virtual, some expression⟩

def ofSqlServerRow (r : Row) : Except Error ColumnInfo := do
  let typeName := Text.lowerAscii (← r.text "type_name")
  return {
    name := ← r.text "name"
    typeName
    fullType := sqlServerType typeName r
    collation := r.text? "collation"
    nullable := r.flag "nullable"
    defaultText := r.text? "default"
    autoIncrement := r.flag "autoincrement"
    comment := r.text? "comment"
    generation := sqlServerGeneration r }

def ofRow (d : Dialect) (r : Row) : Except Error ColumnInfo :=
  match d with
  | .postgres => ofPostgresRow r
  | .mysql => ofMysqlRow r
  | .sqlite => ofSqliteRow r
  | .sqlServer => ofSqlServerRow r

end ColumnInfo

namespace IndexInfo

/-- The name of an index; primary keys go by one name where the server has a name of its own for all of them. -/
def nameOf (primary : Bool) (r : Row) : Except Error String :=
  if primary then .ok "primary" else do return Text.lowerAscii (← r.text "name")

def ofRow (d : Dialect) (r : Row) : Except Error IndexInfo := do
  match d with
  | .postgres | .sqlServer =>
    return {
      name := ← nameOf false r
      columns := r.list "columns"
      kind := r.word? "type"
      unique := r.flag "unique"
      primary := r.flag "primary" }
  | .mysql =>
    let primary := (← r.text "name") = "PRIMARY"
    return {
      name := ← nameOf primary r
      columns := r.list "columns"
      kind := r.word? "type"
      unique := r.flag "unique"
      primary }
  | .sqlite =>
    let primary := r.flag "primary"
    return {
      name := ← nameOf primary r
      columns := r.list "columns"
      kind := none
      unique := r.flag "unique"
      primary }

end IndexInfo

namespace ForeignKeyInfo

def action (d : Dialect) (word : Option String) : String :=
  match d, word with
  | .postgres, some "r" => "restrict"
  | .postgres, some "c" => "cascade"
  | .postgres, some "n" => "set null"
  | .postgres, some "d" => "set default"
  | .postgres, _ | _, none => "no action"
  | .mysql, some word | .sqlite, some word => word
  | .sqlServer, some word => String.ofList (word.toList.map fun c => if c = '_' then ' ' else c)

def ofRow (d : Dialect) (r : Row) : Except Error ForeignKeyInfo := do
  return {
    name := if d = .sqlite then none else r.text? "name"
    columns := r.list "columns"
    foreignSchema := if d = .sqlite then none else r.text? "foreign_schema"
    foreignTable := ← r.text "foreign_table"
    foreignColumns := r.list "foreign_columns"
    onUpdate := action d (r.word? "on_update")
    onDelete := action d (r.word? "on_delete") }

end ForeignKeyInfo

/-- The key that a server gave to a row, from the rows that it answered with: the value of the key's column, or of
the first one there is. -/
def generatedId (rows : List Row) (key : String) : Except Error Int64 :=
  match rows with
  | [] => .error (.rows .noRow)
  | r :: _ =>
    match r.get? key <|> r.first? with
    | none => .error (.rows .emptyRow)
    | some value =>
      match value.asInt? <|> value.asFloat?.map Decimal.toInt64 with
      | some id => .ok id
      | none => .error (.rows (.notAnId value))

end SqlCompiler
