import SqlCompiler.Literal
import SqlCompiler.Schema.Basic

namespace SqlCompiler

namespace Target

def quote (t : Target) (s : String) : Except Error String := t.dialect.textLiteral s

def quotes (t : Target) : List String → Except Error (List String)
  | [] => .ok []
  | s :: rest => do
    let first ← t.quote s
    let later ← t.quotes rest
    return first :: later

def sized (name : String) (size : Option UInt32) : String :=
  match size with
  | none => name
  | some n => name ++ "(" ++ toString n.toNat ++ ")"

def numbered (name : String) (size : UInt32) : String := sized name (some size)

def sizedText (name : String) (size : Option UInt32) : String := numbered name (size.getD 255)

def decimalType (total places : UInt32) : String :=
  "DECIMAL(" ++ toString total.toNat ++ ", " ++ toString places.toNat ++ ")"

def oneOf (t : Target) (column : String) (allowed : List String) : Except Error String := do
  return "CHECK (" ++ t.column column ++ " IN (" ++ ", ".intercalate (← t.quotes allowed) ++ "))"

def mysqlListed (t : Target) (name : String) (allowed : List String) : Except Error String := do
  return name ++ "(" ++ ", ".intercalate (← t.quotes allowed) ++ ")"

def mysqlSpatial (t : Target) (subtype : Option String) (srid : Option UInt32) : String :=
  let name := (subtype.map Text.upper).getD "GEOMETRY"
  match srid with
  | some n => if t.isMariadb then name else name ++ " SRID " ++ toString n.toNat
  | none => name

def mysqlType (t : Target) : ColumnType → Except Error String
  | .char length => .ok (sizedText "CHAR" length)
  | .string length => .ok (sizedText "VARCHAR" length)
  | .tinyText => .ok "TINYTEXT"
  | .text => .ok "TEXT"
  | .mediumText => .ok "MEDIUMTEXT"
  | .longText => .ok "LONGTEXT"
  | .tinyInteger => .ok "TINYINT"
  | .smallInteger => .ok "SMALLINT"
  | .mediumInteger => .ok "MEDIUMINT"
  | .integer => .ok "INT"
  | .bigInteger => .ok "BIGINT"
  | .float precision => .ok (sized "FLOAT" precision)
  | .double => .ok "DOUBLE"
  | .decimal total places => .ok (decimalType total places)
  | .boolean => .ok "TINYINT(1)"
  | .enum allowed => t.mysqlListed "ENUM" allowed
  | .set allowed => t.mysqlListed "SET" allowed
  | .json | .jsonb => .ok "JSON"
  | .date => .ok "DATE"
  | .dateTime precision | .dateTimeTz precision => .ok (sized "DATETIME" precision)
  | .time precision | .timeTz precision => .ok (sized "TIME" precision)
  | .timestamp precision | .timestampTz precision => .ok (sized "TIMESTAMP" precision)
  | .year => .ok "YEAR"
  | .binary length true => .ok (sizedText "BINARY" length)
  | .binary (some length) false => .ok (numbered "VARBINARY" length)
  | .binary none false => .ok "BLOB"
  | .uuid => .ok "CHAR(36)"
  | .ipAddress => .ok "VARCHAR(45)"
  | .macAddress => .ok "VARCHAR(17)"
  | .geometry subtype srid | .geography subtype srid => .ok (t.mysqlSpatial subtype srid)
  | .vector dimensions => .ok (numbered "VECTOR" dimensions)
  | .computed _ => t.unsupported .untypedComputedColumns

def postgresTime (name : String) (precision : Option UInt32) (zone : String) : String :=
  sized name precision ++ " " ++ zone ++ " TIME ZONE"

def postgresSpatial (name : String) (subtype : Option String) (srid : Option UInt32) : String :=
  match subtype, srid with
  | none, _ => name
  | some subtype, none => name ++ "(" ++ Text.upper subtype ++ ")"
  | some subtype, some n => name ++ "(" ++ Text.upper subtype ++ ", " ++ toString n.toNat ++ ")"

def postgresType (t : Target) (c : Column) : Except Error String :=
  let serial := c.autoIncrement && c.identity.isNone && !c.change
  match c.type with
  | .char length => .ok (sizedText "CHAR" length)
  | .string length => .ok (sized "VARCHAR" length)
  | .tinyText => .ok "VARCHAR(255)"
  | .text | .mediumText | .longText => .ok "TEXT"
  | .tinyInteger | .smallInteger => .ok (if serial then "SMALLSERIAL" else "SMALLINT")
  | .mediumInteger | .integer => .ok (if serial then "SERIAL" else "INTEGER")
  | .bigInteger => .ok (if serial then "BIGSERIAL" else "BIGINT")
  | .float precision => .ok (sized "FLOAT" precision)
  | .double => .ok "DOUBLE PRECISION"
  | .decimal total places => .ok (decimalType total places)
  | .boolean => .ok "BOOLEAN"
  | .enum allowed => do return "VARCHAR(255) " ++ (← t.oneOf c.name allowed)
  | .set _ => t.unsupported .setColumns
  | .json => .ok "JSON"
  | .jsonb => .ok "JSONB"
  | .date => .ok "DATE"
  | .dateTime precision | .timestamp precision => .ok (postgresTime "TIMESTAMP" precision "WITHOUT")
  | .dateTimeTz precision | .timestampTz precision => .ok (postgresTime "TIMESTAMP" precision "WITH")
  | .time precision => .ok (postgresTime "TIME" precision "WITHOUT")
  | .timeTz precision => .ok (postgresTime "TIME" precision "WITH")
  | .year => .ok "INTEGER"
  | .binary _ _ => .ok "BYTEA"
  | .uuid => .ok "UUID"
  | .ipAddress => .ok "INET"
  | .macAddress => .ok "MACADDR"
  | .geometry subtype srid => .ok (postgresSpatial "GEOMETRY" subtype srid)
  | .geography subtype srid => .ok (postgresSpatial "GEOGRAPHY" subtype (some (srid.getD 4326)))
  | .vector dimensions => .ok (numbered "VECTOR" dimensions)
  | .computed _ => t.unsupported .untypedComputedColumns

def sqliteType (t : Target) (c : Column) : Except Error String :=
  match c.type with
  | .char _ | .string _ | .uuid | .ipAddress | .macAddress => .ok "VARCHAR"
  | .tinyText | .text | .mediumText | .longText | .json | .jsonb => .ok "TEXT"
  | .tinyInteger | .smallInteger | .mediumInteger | .integer | .bigInteger | .year => .ok "INTEGER"
  | .float _ => .ok "FLOAT"
  | .double => .ok "DOUBLE"
  | .decimal _ _ => .ok "NUMERIC"
  | .boolean => .ok "TINYINT(1)"
  | .enum allowed => do return "VARCHAR " ++ (← t.oneOf c.name allowed)
  | .set _ => t.unsupported .setColumns
  | .date => .ok "DATE"
  | .dateTime _ | .dateTimeTz _ | .timestamp _ | .timestampTz _ => .ok "DATETIME"
  | .time _ | .timeTz _ => .ok "TIME"
  | .binary _ _ => .ok "BLOB"
  | .geometry _ _ | .geography _ _ => .ok "GEOMETRY"
  | .vector _ => t.unsupported .vectorColumns
  | .computed _ => t.unsupported .untypedComputedColumns

def sqlServerType (t : Target) (c : Column) : Except Error String :=
  match c.type with
  | .char length => .ok (sizedText "NCHAR" length)
  | .string length => .ok (sizedText "NVARCHAR" length)
  | .tinyText => .ok "NVARCHAR(255)"
  | .text | .mediumText | .longText | .json | .jsonb => .ok "NVARCHAR(MAX)"
  | .tinyInteger => .ok "TINYINT"
  | .smallInteger => .ok "SMALLINT"
  | .mediumInteger | .integer | .year => .ok "INT"
  | .bigInteger => .ok "BIGINT"
  | .float precision => .ok (sized "FLOAT" precision)
  | .double => .ok "DOUBLE PRECISION"
  | .decimal total places => .ok (decimalType total places)
  | .boolean => .ok "BIT"
  | .enum allowed => do return "NVARCHAR(255) " ++ (← t.oneOf c.name allowed)
  | .set _ => t.unsupported .setColumns
  | .date => .ok "DATE"
  | .dateTime none | .timestamp none => .ok "DATETIME"
  | .dateTime (some n) | .timestamp (some n) => .ok (numbered "DATETIME2" n)
  | .dateTimeTz precision | .timestampTz precision => .ok (sized "DATETIMEOFFSET" precision)
  | .time precision | .timeTz precision => .ok (sized "TIME" precision)
  | .binary length true => .ok (sizedText "BINARY" length)
  | .binary (some length) false => .ok (numbered "VARBINARY" length)
  | .binary none false => .ok "VARBINARY(MAX)"
  | .uuid => .ok "UNIQUEIDENTIFIER"
  | .ipAddress => .ok "NVARCHAR(45)"
  | .macAddress => .ok "NVARCHAR(17)"
  | .geometry _ _ => .ok "GEOMETRY"
  | .geography _ _ => .ok "GEOGRAPHY"
  | .vector _ => t.unsupported .vectorColumns
  | .computed expression => .ok ("AS (" ++ expression ++ ")")

def typeName (t : Target) (c : Column) : Except Error String :=
  match t.dialect with
  | .postgres => t.postgresType c
  | .mysql => t.mysqlType c.type
  | .sqlite => t.sqliteType c
  | .sqlServer => t.sqlServerType c

end Target

end SqlCompiler
