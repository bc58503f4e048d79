namespace SqlCompiler

inductive Json
  | null
  | bool (b : Bool)
  | int (n : Int)
  | float (x : Float)
  | str (s : String)
  | arr (items : List Json)
  | obj (fields : List (String × Json))
deriving Inhabited

namespace Json

/-- Puts a field into a list ordered by name, in place of a field with that name. -/
def insertField (name : String) (value : Json) : List (String × Json) → List (String × Json)
  | [] => [(name, value)]
  | (other, old) :: rest =>
    if name = other then (name, value) :: rest
    else if name < other then (name, value) :: (other, old) :: rest
    else (other, old) :: insertField name value rest

def ofFields (fields : List (String × Json)) : Json :=
  .obj (fields.foldl (fun done (name, value) => insertField name value done) [])

mutual

def canonical : Json → Json
  | .arr items => .arr (canonicalItems items)
  | .obj fields => ofFields (canonicalFields fields)
  | other => other

def canonicalItems : List Json → List Json
  | [] => []
  | item :: rest => item.canonical :: canonicalItems rest

def canonicalFields : List (String × Json) → List (String × Json)
  | [] => []
  | (name, value) :: rest => (name, value.canonical) :: canonicalFields rest

end

def field? (name : String) : Json → Option Json
  | .obj fields => fields.lookup name
  | _ => none

def isNull : Json → Bool
  | .null => true
  | _ => false

def ofOption (f : α → Json) : Option α → Json
  | none => .null
  | some a => f a

def ofText? (s : Option String) : Json := ofOption .str s

def ofNat (n : Nat) : Json := .int n

end Json

end SqlCompiler
