import SqlCompiler.Value.Basic
import SqlCompiler.Text.Shown

namespace SqlCompiler

namespace Json

mutual

def shown : Json → String
  | .null => "Null"
  | .bool b => "Bool(" ++ (if b then "true" else "false") ++ ")"
  | .int n => "Number(" ++ toString n ++ ")"
  | .float x => "Number(" ++ Decimal.Layout.document.text x ++ ")"
  | .str s => "String(" ++ Text.shown s ++ ")"
  | .arr items => "Array [" ++ shownItems items ++ "]"
  | .obj fields => "Object \x7b" ++ shownFields fields ++ "\x7d"

def shownItems : List Json → String
  | [] => ""
  | [item] => item.shown
  | item :: next :: rest => item.shown ++ ", " ++ shownItems (next :: rest)

def shownFields : List (String × Json) → String
  | [] => ""
  | [(name, value)] => Text.shown name ++ ": " ++ value.shown
  | (name, value) :: next :: rest =>
    Text.shown name ++ ": " ++ value.shown ++ ", " ++ shownFields (next :: rest)

end

end Json

namespace Value

mutual

def shown : Value → String
  | .null => "Null"
  | .bool b => "Bool(" ++ (if b then "true" else "false") ++ ")"
  | .int n => "Int(" ++ toString n.toInt ++ ")"
  | .float x => "Float(" ++ Decimal.Layout.literal.text x ++ ")"
  | .text s => "Text(" ++ Text.shown s ++ ")"
  | .blob bytes => "Blob([" ++ ", ".intercalate (bytes.map fun b => toString b.toNat) ++ "])"
  | .date d => "Date(" ++ d.text ++ ")"
  | .dateTime t => "DateTime(" ++ t.exactText ++ ")"
  | .json j => "Json(" ++ j.shown ++ ")"
  | .array items => "Array([" ++ shownItems items ++ "])"

def shownItems : List Value → String
  | [] => ""
  | [item] => item.shown
  | item :: next :: rest => item.shown ++ ", " ++ shownItems (next :: rest)

end

end Value

end SqlCompiler
