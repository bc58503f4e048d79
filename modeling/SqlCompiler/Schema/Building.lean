import SqlCompiler.Schema.Basic

namespace SqlCompiler

namespace Column

def constrained (c : Column) (table column : String) : Column :=
  { c with foreign := some { columns := [c.name], references := [column], table } }

def changeForeign (c : Column) (change : ForeignKey → ForeignKey) : Column :=
  { c with foreign := c.foreign.map change }

def withIndex (c : Column) (kind : IndexKind) (name : Option String) : Column :=
  { c with indexes := c.indexes ++ [⟨kind, name⟩] }

def increments (name : String) (type : ColumnType) : Column :=
  { name, type, unsigned := true, autoIncrement := true }

def unsignedInteger (name : String) : Column := { name, type := .bigInteger, unsigned := true }

def usualLength (length : Option UInt32) : Option UInt32 := length <|> some 255

def nullableTimestamp (name : String) (precision : Option UInt32) : Column :=
  { name, type := .timestamp precision, nullable := some true }

def rememberToken : Column := { name := "remember_token", type := .string (some 100), nullable := some true }

end Column

namespace Blueprint

def create (table : String) : Blueprint := { table, commands := [.create] }

def addColumn (b : Blueprint) (c : Column) : Blueprint := { b with columns := b.columns ++ [c] }

def addCommand (b : Blueprint) (c : Command) : Blueprint := { b with commands := b.commands ++ [c] }

def addTimestamps (b : Blueprint) (precision : Option UInt32) : Blueprint :=
  (b.addColumn (Column.nullableTimestamp "created_at" precision)).addColumn
    (Column.nullableTimestamp "updated_at" precision)

end Blueprint

end SqlCompiler
