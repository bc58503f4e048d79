import SqlCompiler.Dialect
import SqlCompiler.Json.Reader
import SqlCompiler.Json.Record

namespace SqlCompiler

structure Config where
  product : Product
  serverVersion : Option String := none
  tablePrefix : String := ""
  schema : Option String := none
  charset : Option String := none
  collation : Option String := none
  engine : Option String := none
deriving DecidableEq

namespace Config

/-- The version of the server. Without one, MariaDB counts as newer than every version. -/
def version (c : Config) : Except Error (Option Version) :=
  match c.serverVersion with
  | none =>
    if c.product = .mariadb then .ok (some ⟨4294967295, 0, 0, true⟩) else .ok none
  | some text =>
    match Version.ofText? text with
    | none => .error (.invalid (.unreadableVersion text))
    | some v => .ok (some (if c.product = .mariadb then { v with mariadb := true } else v))

def target (c : Config) : Except Error Target := do
  return {
    dialect := c.product.dialect
    version := ← c.version
    tablePrefix := c.tablePrefix
    schema := c.schema
    charset := c.charset
    collation := c.collation
    engine := c.engine }

def fieldNames : List String :=
  ["dialect", "server_version", "table_prefix", "schema", "charset", "collation", "engine"]

def ofJson? (j : Json) : Option Config := do
  let f ← j.fields? fieldNames
  let name ← f.required "dialect" Json.text?
  let product ← (Product.ofText name).toOption
  let optionalText (field : String) := f.optional field none (Json.nullable Json.text?)
  return {
    product
    serverVersion := ← optionalText "server_version"
    tablePrefix := ← f.optional "table_prefix" "" Json.text?
    schema := ← optionalText "schema"
    charset := ← optionalText "charset"
    collation := ← optionalText "collation"
    engine := ← optionalText "engine" }

def ofText (s : String) : Except Error Config :=
  match (Json.readRecord? fieldNames s).bind ofJson? with
  | some config => .ok config
  | none => .error (.invalid .malformedConfig)

def toJson (c : Config) : Json :=
  .obj [
    ("dialect", .str c.product.name),
    ("server_version", .ofText? c.serverVersion),
    ("table_prefix", .str c.tablePrefix),
    ("schema", .ofText? c.schema),
    ("charset", .ofText? c.charset),
    ("collation", .ofText? c.collation),
    ("engine", .ofText? c.engine)]

end Config

end SqlCompiler
