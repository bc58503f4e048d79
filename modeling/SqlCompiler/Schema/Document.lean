import SqlCompiler.Json.Record
import SqlCompiler.Schema.Basic

namespace SqlCompiler

open Json (text? truth? uint32? uint64? int64? float? list? word? looseWord?)

namespace IndexKind

def ofName? (name : String) : Option IndexKind := all.find? fun kind => kind.name == name

end IndexKind

namespace ReferenceAction

def ofName? (name : String) : Option ReferenceAction := all.find? fun action => action.name == name

end ReferenceAction

namespace TableIndex

def fieldNames : List String := ["name", "columns", "algorithm", "language"]

def toFields (i : TableIndex) : List (String × Json) :=
  [("name", .str i.name), ("columns", .arr (i.columns.map .str)), ("algorithm", .ofText? i.algorithm),
    ("language", .ofText? i.language)]

def ofJson? (j : Json) : Option TableIndex := do
  let f ← j.fields? fieldNames
  return {
    name := ← f.optional "name" "" text?
    columns := ← f.optional "columns" [] (list? text?)
    algorithm := ← f.optional "algorithm" none (Json.nullable text?)
    language := ← f.optional "language" none (Json.nullable text?) }

end TableIndex

namespace ForeignKey

def fieldNames : List String :=
  ["name", "columns", "on", "references", "on_delete", "on_update", "deferrable", "initially_immediate", "not_valid"]

def toFields (k : ForeignKey) : List (String × Json) :=
  let action (a : Option ReferenceAction) : Json := .ofText? (a.map ReferenceAction.name)
  [("name", .str k.name), ("columns", .arr (k.columns.map .str)), ("on", .str k.table),
    ("references", .arr (k.references.map .str)), ("on_delete", action k.onDelete), ("on_update", action k.onUpdate),
    ("deferrable", .ofOption .bool k.deferrable), ("initially_immediate", .ofOption .bool k.initiallyImmediate),
    ("not_valid", .bool k.notValid)]

def ofFields? (action? : Json → Option ReferenceAction) (j : Json) : Option ForeignKey := do
  let f ← j.fields? fieldNames
  return {
    name := ← f.optional "name" "" text?
    columns := ← f.optional "columns" [] (list? text?)
    table := ← f.optional "on" "" text?
    references := ← f.optional "references" [] (list? text?)
    onDelete := ← f.optional "on_delete" none (Json.nullable action?)
    onUpdate := ← f.optional "on_update" none (Json.nullable action?)
    deferrable := ← f.optional "deferrable" none (Json.nullable truth?)
    initiallyImmediate := ← f.optional "initially_immediate" none (Json.nullable truth?)
    notValid := ← f.optional "not_valid" false truth? }

def ofJson? (j : Json) : Option ForeignKey := ofFields? (word? ReferenceAction.ofName?) j

def ofDetails? (j : Json) : Option ForeignKey := ofFields? (looseWord? ReferenceAction.ofName?) j

end ForeignKey

namespace ColumnType

def kinds : List String :=
  ["char", "string", "tiny_text", "text", "medium_text", "long_text", "tiny_integer", "small_integer",
    "medium_integer", "integer", "big_integer", "float", "double", "decimal", "boolean", "enum", "set", "json",
    "jsonb", "date", "date_time", "date_time_tz", "time", "time_tz", "timestamp", "timestamp_tz", "year", "binary",
    "uuid", "ip_address", "mac_address", "geometry", "geography", "vector", "computed"]

def kind : ColumnType → String
  | .char _ => "char"
  | .string _ => "string"
  | .tinyText => "tiny_text"
  | .text => "text"
  | .mediumText => "medium_text"
  | .longText => "long_text"
  | .tinyInteger => "tiny_integer"
  | .smallInteger => "small_integer"
  | .mediumInteger => "medium_integer"
  | .integer => "integer"
  | .bigInteger => "big_integer"
  | .float _ => "float"
  | .double => "double"
  | .decimal _ _ => "decimal"
  | .boolean => "boolean"
  | .enum _ => "enum"
  | .set _ => "set"
  | .json => "json"
  | .jsonb => "jsonb"
  | .date => "date"
  | .dateTime _ => "date_time"
  | .dateTimeTz _ => "date_time_tz"
  | .time _ => "time"
  | .timeTz _ => "time_tz"
  | .timestamp _ => "timestamp"
  | .timestampTz _ => "timestamp_tz"
  | .year => "year"
  | .binary _ _ => "binary"
  | .uuid => "uuid"
  | .ipAddress => "ip_address"
  | .macAddress => "mac_address"
  | .geometry _ _ => "geometry"
  | .geography _ _ => "geography"
  | .vector _ => "vector"
  | .computed _ => "computed"

theorem kind_mem_kinds (t : ColumnType) : t.kind ∈ kinds := by cases t <;> simp [kind, kinds]

def number (n : Option UInt32) : Json := .ofOption (fun n => .ofNat n.toNat) n

def details : ColumnType → List (String × Json)
  | .char length | .string length => [("length", number length)]
  | .float precision | .dateTime precision | .dateTimeTz precision | .time precision | .timeTz precision
  | .timestamp precision | .timestampTz precision => [("precision", number precision)]
  | .decimal total places => [("total", .ofNat total.toNat), ("places", .ofNat places.toNat)]
  | .enum allowed | .set allowed => [("allowed", .arr (allowed.map .str))]
  | .binary length fixed => [("length", number length), ("fixed", .bool fixed)]
  | .geometry subtype srid | .geography subtype srid => [("subtype", .ofText? subtype), ("srid", number srid)]
  | .vector dimensions => [("dimensions", .ofNat dimensions.toNat)]
  | .computed expression => [("expression", .str expression)]
  | _ => []

def toFields (t : ColumnType) : List (String × Json) := ("kind", .str t.kind) :: t.details

def ofKind? (kind : String) (j : Json) : Option ColumnType :=
  let sized (build : Option UInt32 → ColumnType) (field : String) : Option ColumnType := do
    let f ← j.objectFields? [field]
    return build (← f.optional field none (Json.nullable uint32?))
  let listed (build : List String → ColumnType) : Option ColumnType := do
    let f ← j.objectFields? ["allowed"]
    return build (← f.required "allowed" (list? text?))
  let placed (build : Option String → Option UInt32 → ColumnType) : Option ColumnType := do
    let f ← j.objectFields? ["subtype", "srid"]
    let subtype ← f.optional "subtype" none (Json.nullable text?)
    return build subtype (← f.optional "srid" none (Json.nullable uint32?))
  match kind with
  | "char" => sized .char "length"
  | "string" => sized .string "length"
  | "tiny_text" => some .tinyText
  | "text" => some .text
  | "medium_text" => some .mediumText
  | "long_text" => some .longText
  | "tiny_integer" => some .tinyInteger
  | "small_integer" => some .smallInteger
  | "medium_integer" => some .mediumInteger
  | "integer" => some .integer
  | "big_integer" => some .bigInteger
  | "float" => sized .float "precision"
  | "double" => some .double
  | "decimal" => do
    let f ← j.objectFields? ["total", "places"]
    let total ← f.required "total" uint32?
    return .decimal total (← f.required "places" uint32?)
  | "boolean" => some .boolean
  | "enum" => listed .enum
  | "set" => listed .set
  | "json" => some .json
  | "jsonb" => some .jsonb
  | "date" => some .date
  | "date_time" => sized .dateTime "precision"
  | "date_time_tz" => sized .dateTimeTz "precision"
  | "time" => sized .time "precision"
  | "time_tz" => sized .timeTz "precision"
  | "timestamp" => sized .timestamp "precision"
  | "timestamp_tz" => sized .timestampTz "precision"
  | "year" => some .year
  | "binary" => do
    let f ← j.objectFields? ["length", "fixed"]
    let length ← f.optional "length" none (Json.nullable uint32?)
    return .binary length (← f.optional "fixed" false truth?)
  | "uuid" => some .uuid
  | "ip_address" => some .ipAddress
  | "mac_address" => some .macAddress
  | "geometry" => placed .geometry
  | "geography" => placed .geography
  | "vector" => do
    let f ← j.objectFields? ["dimensions"]
    return .vector (← f.required "dimensions" uint32?)
  | "computed" => do
    let f ← j.objectFields? ["expression"]
    return .computed (← f.required "expression" text?)
  | _ => none

def kindOf? : Json → Option String
  | .str kind => some kind
  | .int n => if 0 ≤ n then kinds[n.toNat]? else none
  | _ => none

def ofJson? (j : Json) : Option ColumnType := do
  let f ← j.objectFields? ["kind"]
  ofKind? (← f.required "kind" kindOf?) j

end ColumnType

namespace DefaultValue

def toJson : DefaultValue → Json
  | .null => .str "null"
  | .bool b => .obj [("bool", .bool b)]
  | .integer n => .obj [("integer", .int n.toInt)]
  | .float x => .obj [("float", if x.isFinite then .float x else .null)]
  | .text s => .obj [("string", .str s)]
  | .expression sql => .obj [("expression", .str sql)]

def ofJson? : Json → Option DefaultValue
  | .str "null" => some .null
  | .obj [("null", .null)] => some .null
  | .obj [("bool", j)] => (truth? j).map .bool
  | .obj [("integer", j)] => (int64? j).map .integer
  | .obj [("float", j)] => (float? j).map .float
  | .obj [("string", j)] => (text? j).map .text
  | .obj [("expression", j)] => (text? j).map .expression
  | _ => none

end DefaultValue

namespace ColumnIndex

def toJson (i : ColumnIndex) : Json := .obj [("kind", .str i.kind.name), ("name", .ofText? i.name)]

def ofJson? (j : Json) : Option ColumnIndex := do
  let f ← j.fields? ["kind", "name"]
  let kind ← f.required "kind" (word? IndexKind.ofName?)
  return { kind, name := ← f.optional "name" none (Json.nullable text?) }

end ColumnIndex

namespace Column

def toJson (c : Column) : Json :=
  .obj ([("name", .str c.name)] ++ c.type.toFields ++ [
    ("nullable", .ofOption .bool c.nullable),
    ("default", .ofOption DefaultValue.toJson c.defaultValue),
    ("unsigned", .bool c.unsigned),
    ("auto_increment", .bool c.autoIncrement),
    ("charset", .ofText? c.charset),
    ("collation", .ofText? c.collation),
    ("comment", .ofText? c.comment),
    ("virtual_as", .ofText? c.virtualAs),
    ("stored_as", .ofText? c.storedAs),
    ("generated_as", .ofText? c.identity),
    ("always", .bool c.always),
    ("persisted", .bool c.persisted),
    ("use_current", .bool c.useCurrent),
    ("use_current_on_update", .bool c.useCurrentOnUpdate),
    ("on_update", .ofText? c.onUpdate),
    ("invisible", .bool c.invisible),
    ("after", .ofText? c.after),
    ("first", .bool c.first),
    ("change", .bool c.change),
    ("starting_value", .ofOption (fun n => .ofNat n.toNat) c.startingValue),
    ("indexes", .arr (c.indexes.map ColumnIndex.toJson)),
    ("foreign", .ofOption (fun k => .obj k.toFields) c.foreign)])

def fieldNames : List String :=
  ["name", "nullable", "default", "unsigned", "auto_increment", "charset", "collation", "comment", "virtual_as",
    "stored_as", "generated_as", "always", "persisted", "use_current", "use_current_on_update", "on_update",
    "invisible", "after", "first", "change", "starting_value", "indexes", "foreign"]

def ofJson? (j : Json) : Option Column := do
  let f ← j.objectFields? fieldNames
  let optionalText (field : String) := f.optional field none (Json.nullable text?)
  let flag (field : String) := f.optional field false truth?
  return {
    name := ← f.optional "name" "" text?
    type := ← ColumnType.ofJson? j
    nullable := ← f.optional "nullable" none (Json.nullable truth?)
    defaultValue := ← f.optional "default" none (Json.nullable DefaultValue.ofJson?)
    unsigned := ← flag "unsigned"
    autoIncrement := ← flag "auto_increment"
    charset := ← optionalText "charset"
    collation := ← optionalText "collation"
    comment := ← optionalText "comment"
    virtualAs := ← optionalText "virtual_as"
    storedAs := ← optionalText "stored_as"
    identity := ← optionalText "generated_as"
    always := ← flag "always"
    persisted := ← flag "persisted"
    useCurrent := ← flag "use_current"
    useCurrentOnUpdate := ← flag "use_current_on_update"
    onUpdate := ← optionalText "on_update"
    invisible := ← flag "invisible"
    after := ← optionalText "after"
    first := ← flag "first"
    change := ← flag "change"
    startingValue := ← f.optional "starting_value" none (Json.nullable uint64?)
    indexes := ← f.optional "indexes" [] (list? ColumnIndex.ofJson?)
    foreign := ← f.optional "foreign" none (Json.nullable ForeignKey.ofJson?) }

end Column

namespace Command

def indexWord : IndexKind → String
  | .spatial => "spatial_index"
  | kind => kind.name

def word : Command → String
  | .create => "create"
  | .add => "add"
  | .change => "change"
  | .drop => "drop"
  | .dropIfExists => "drop_if_exists"
  | .rename _ => "rename"
  | .dropColumn _ => "drop_column"
  | .renameColumn _ _ => "rename_column"
  | .index kind _ => indexWord kind
  | .foreign _ => "foreign"
  | .dropPrimary _ => "drop_primary"
  | .dropUnique _ => "drop_unique"
  | .dropIndex _ => "drop_index"
  | .dropFullText _ => "drop_fulltext"
  | .dropSpatial _ => "drop_spatial_index"
  | .dropForeign _ => "drop_foreign"
  | .renameIndex _ _ => "rename_index"
  | .tableComment _ => "table_comment"
  | .columnComment _ _ => "column_comment"
  | .startingValue _ _ => "auto_increment_starting_value"

def details : Command → List (String × Json)
  | .create | .add | .change | .drop | .dropIfExists => []
  | .rename new => [("to", .str new)]
  | .dropColumn columns => [("columns", .arr (columns.map .str))]
  | .renameColumn old new | .renameIndex old new => [("from", .str old), ("to", .str new)]
  | .index _ i => i.toFields
  | .foreign key => key.toFields
  | .dropPrimary name | .dropUnique name | .dropIndex name | .dropFullText name | .dropSpatial name
  | .dropForeign name => [("name", .str name)]
  | .tableComment comment => [("comment", .str comment)]
  | .columnComment column comment => [("column", .str column), ("comment", .str comment)]
  | .startingValue column value => [("column", .str column), ("value", .ofNat value.toNat)]

def toJson (c : Command) : Json := .obj (("command", .str c.word) :: c.details)

def bare (command : Command) : Json → Option Command
  | .arr (_ :: _) => none
  | _ => some command

def ofWord? (word : String) (j : Json) : Option Command :=
  let named (build : String → Command) (field : String) : Option Command := do
    let f ← j.fields? [field]
    return build (← f.required field text?)
  let paired (build : String → String → Command) (first second : String) : Option Command := do
    let f ← j.fields? [first, second]
    let a ← f.required first text?
    return build a (← f.required second text?)
  match word with
  | "create" => bare .create j
  | "add" => bare .add j
  | "change" => bare .change j
  | "drop" => bare .drop j
  | "drop_if_exists" => bare .dropIfExists j
  | "rename" => named .rename "to"
  | "drop_column" => do
    let f ← j.fields? ["columns"]
    return .dropColumn (← f.required "columns" (list? text?))
  | "rename_column" => paired .renameColumn "from" "to"
  | "primary" => (TableIndex.ofJson? j).map (.index .primary)
  | "unique" => (TableIndex.ofJson? j).map (.index .unique)
  | "index" => (TableIndex.ofJson? j).map (.index .plain)
  | "fulltext" => (TableIndex.ofJson? j).map (.index .fullText)
  | "spatial_index" => (TableIndex.ofJson? j).map (.index .spatial)
  | "foreign" => (ForeignKey.ofDetails? j).map .foreign
  | "drop_primary" => do
    let f ← j.fields? ["name"]
    return .dropPrimary (← f.optional "name" "" text?)
  | "drop_unique" => named .dropUnique "name"
  | "drop_index" => named .dropIndex "name"
  | "drop_fulltext" => named .dropFullText "name"
  | "drop_spatial_index" => named .dropSpatial "name"
  | "drop_foreign" => named .dropForeign "name"
  | "rename_index" => paired .renameIndex "from" "to"
  | "table_comment" => named .tableComment "comment"
  | "column_comment" => paired .columnComment "column" "comment"
  | "auto_increment_starting_value" => do
    let f ← j.fields? ["column", "value"]
    let column ← f.required "column" text?
    return .startingValue column (← f.required "value" uint64?)
  | _ => none

/-- A command is an object with its name in the field `command`, or a list that its name begins. -/
def ofJson? : Json → Option Command
  | .obj fields => do
    let f ← (Json.obj fields).objectFields? ["command"]
    let word ← f.required "command" text?
    ofWord? word (.obj (fields.filter fun (name, _) => name != "command"))
  | .arr (.str word :: rest) => ofWord? word (.arr rest)
  | _ => none

end Command

namespace Blueprint

def fieldNames : List String := ["table", "columns", "commands", "temporary", "charset", "collation", "engine"]

def toJson (b : Blueprint) : Json :=
  .obj [
    ("table", .str b.table),
    ("columns", .arr (b.columns.map Column.toJson)),
    ("commands", .arr (b.commands.map Command.toJson)),
    ("temporary", .bool b.temporary),
    ("charset", .ofText? b.charset),
    ("collation", .ofText? b.collation),
    ("engine", .ofText? b.engine)]

def ofJson? (j : Json) : Option Blueprint := do
  let f ← j.fields? fieldNames
  return {
    table := ← f.optional "table" "" text?
    columns := ← f.optional "columns" [] (list? Column.ofJson?)
    commands := ← f.optional "commands" [] (list? Command.ofJson?)
    temporary := ← f.optional "temporary" false truth?
    charset := ← f.optional "charset" none (Json.nullable text?)
    collation := ← f.optional "collation" none (Json.nullable text?)
    engine := ← f.optional "engine" none (Json.nullable text?) }

end Blueprint

end SqlCompiler
