import SqlCompiler.Json.Basic

namespace SqlCompiler.Json

structure Fields where
  present : List (String × Json)

def hasRepeat : List String → Bool
  | [] => false
  | name :: rest => rest.contains name || hasRepeat rest

def objectFields? (names : List String) : Json → Option Fields
  | .obj fields =>
    let known := fields.filter fun (name, _) => names.contains name
    if hasRepeat (known.map (·.1)) then none else some ⟨known⟩
  | _ => none

def fields? (names : List String) : Json → Option Fields
  | .arr items => if items.length ≤ names.length then some ⟨names.zip items⟩ else none
  | other => objectFields? names other

def Fields.required {α : Type} (f : Fields) (name : String) (read : Json → Option α) : Option α :=
  (f.present.lookup name).bind read

def Fields.optional {α : Type} (f : Fields) (name : String) (default : α) (read : Json → Option α) : Option α :=
  match f.present.lookup name with
  | none => some default
  | some value => read value

def text? : Json → Option String
  | .str s => some s
  | _ => none

def truth? : Json → Option Bool
  | .bool b => some b
  | _ => none

def nullable {α : Type} (read : Json → Option α) : Json → Option (Option α)
  | .null => some none
  | value => (read value).map some

def natBelow? (bound : Nat) : Json → Option Nat
  | .int n => if 0 ≤ n ∧ n < bound then some n.toNat else none
  | _ => none

def uint32? (j : Json) : Option UInt32 := (natBelow? UInt32.size j).map UInt32.ofNat

def uint64? (j : Json) : Option UInt64 := (natBelow? UInt64.size j).map UInt64.ofNat

def int64? : Json → Option Int64
  | .int n => if Int64.minValue.toInt ≤ n ∧ n ≤ Int64.maxValue.toInt then some (Int64.ofInt n) else none
  | _ => none

def float? : Json → Option Float
  | .int n => some (Float.ofInt n)
  | .float x => some x
  | _ => none

def list? {α : Type} (read : Json → Option α) : Json → Option (List α)
  | .arr items => items.mapM read
  | _ => none

/-- One of several words, as a text or as the only field of an object, with `null` for its value. -/
def word? {α : Type} (read : String → Option α) : Json → Option α
  | .str s => read s
  | .obj [(name, .null)] => read name
  | _ => none

/-- A word as above, where the value of the only field may also be an object without fields. -/
def looseWord? {α : Type} (read : String → Option α) : Json → Option α
  | .obj [(name, .obj [])] => read name
  | other => word? read other

end SqlCompiler.Json
