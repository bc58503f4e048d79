import SqlCompiler.Json.Basic

namespace SqlCompiler

structure TableInfo where
  name : String
  schema : Option String
  size : Option Int64
  comment : Option String
  collation : Option String
  engine : Option String
deriving DecidableEq

structure ViewInfo where
  name : String
  schema : Option String
  definition : String
deriving DecidableEq

inductive GenerationKind
  | virtual
  | stored
deriving DecidableEq

def GenerationKind.name : GenerationKind → String
  | .virtual => "virtual"
  | .stored => "stored"

structure Generation where
  kind : GenerationKind
  expression : Option String
deriving DecidableEq

structure ColumnInfo where
  name : String
  typeName : String
  fullType : String
  collation : Option String
  nullable : Bool
  defaultText : Option String
  autoIncrement : Bool
  comment : Option String
  generation : Option Generation
deriving DecidableEq

structure IndexInfo where
  name : String
  columns : List String
  kind : Option String
  unique : Bool
  primary : Bool
deriving DecidableEq

structure ForeignKeyInfo where
  name : Option String
  columns : List String
  foreignSchema : Option String
  foreignTable : String
  foreignColumns : List String
  onUpdate : String
  onDelete : String
deriving DecidableEq

def TableInfo.toJson (i : TableInfo) : Json :=
  .obj [("name", .str i.name), ("schema", .ofText? i.schema), ("size", .ofOption (fun n => .int n.toInt) i.size),
    ("comment", .ofText? i.comment), ("collation", .ofText? i.collation), ("engine", .ofText? i.engine)]

def ViewInfo.toJson (i : ViewInfo) : Json :=
  .obj [("name", .str i.name), ("schema", .ofText? i.schema), ("definition", .str i.definition)]

def Generation.toJson (g : Generation) : Json :=
  .obj [("kind", .str g.kind.name), ("expression", .ofText? g.expression)]

def ColumnInfo.toJson (i : ColumnInfo) : Json :=
  .obj [("name", .str i.name), ("type_name", .str i.typeName), ("full_type", .str i.fullType),
    ("collation", .ofText? i.collation), ("nullable", .bool i.nullable), ("default", .ofText? i.defaultText),
    ("auto_increment", .bool i.autoIncrement), ("comment", .ofText? i.comment),
    ("generation", .ofOption Generation.toJson i.generation)]

def IndexInfo.toJson (i : IndexInfo) : Json :=
  .obj [("name", .str i.name), ("columns", .arr (i.columns.map .str)), ("kind", .ofText? i.kind),
    ("unique", .bool i.unique), ("primary", .bool i.primary)]

def ForeignKeyInfo.toJson (i : ForeignKeyInfo) : Json :=
  .obj [("name", .ofText? i.name), ("columns", .arr (i.columns.map .str)), ("foreign_schema", .ofText? i.foreignSchema),
    ("foreign_table", .str i.foreignTable), ("foreign_columns", .arr (i.foreignColumns.map .str)),
    ("on_update", .str i.onUpdate), ("on_delete", .str i.onDelete)]

end SqlCompiler
