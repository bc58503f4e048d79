import SqlCompiler.Text.Split
import SqlCompiler.Value.Basic

namespace SqlCompiler

structure Row where
  entries : List (String × Value) := []

namespace Row

def setEntry (name : String) (value : Value) : List (String × Value) → List (String × Value)
  | [] => [(name, value)]
  | (other, old) :: rest =>
    if name = other then (name, value) :: rest
    else if name < other then (name, value) :: (other, old) :: rest
    else (other, old) :: setEntry name value rest

/-- A row from its columns; of columns with one name the last counts. -/
def ofList (entries : List (String × Value)) : Row :=
  ⟨entries.foldl (fun done (name, value) => setEntry name value done) []⟩

def get? (r : Row) (name : String) : Option Value := r.entries.lookup name

def first? (r : Row) : Option Value := r.entries.head?.map Prod.snd

end Row

namespace Value

def written? : Value → Option String
  | .null => none
  | .text s => some s
  | .int n => some (toString n.toInt)
  | .blob bytes => String.fromUTF8? ⟨bytes.toArray⟩
  | other => some other.toJson.text

def isYes : Value → Bool
  | .bool b => b
  | .int n => n != 0
  | .text s => Text.lowerAscii s ∈ ["yes", "y", "t", "true", "1"]
  | _ => false

end Value

namespace Row

def text? (r : Row) (name : String) : Option String := (r.get? name).bind Value.written?

def word? (r : Row) (name : String) : Option String := (r.text? name).map Text.lowerAscii

def flag (r : Row) (name : String) : Bool := (r.get? name).any Value.isYes

def int? (r : Row) (name : String) : Option Int64 := (r.get? name).bind Value.asInt?

def list (r : Row) (name : String) : List String :=
  match r.text? name with
  | none => []
  | some s => ((Text.parts ',' s).map Text.strip).filter (· ≠ "")

end Row

end SqlCompiler
