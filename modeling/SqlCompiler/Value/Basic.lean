import SqlCompiler.Calendar.Basic
import SqlCompiler.Decimal.Reading
import SqlCompiler.Decimal.Whole
import SqlCompiler.Json.Printer
import SqlCompiler.Text.Blank

namespace SqlCompiler

inductive Value
  | null
  | bool (b : Bool)
  | int (n : Int64)
  | float (x : Float)
  | text (s : String)
  | blob (bytes : List UInt8)
  | date (d : Date)
  | dateTime (t : DateTime)
  | json (j : Json)
  | array (items : List Value)
deriving Inhabited

namespace Value

def isNull : Value → Bool
  | .null => true
  | _ => false

def isArray : Value → Bool
  | .array _ => true
  | _ => false

/-- A float without a fraction is the nearest whole number that fits. -/
def wholeFloat? (x : Float) : Option Int64 :=
  if x.isFinite && Decimal.isWhole x then some (Decimal.toInt64 x) else none

def asInt? : Value → Option Int64
  | .int n => some n
  | .bool b => some (if b then 1 else 0)
  | .float x => wholeFloat? x
  | .text s => Decimal.int64? (Text.strip s)
  | _ => none

def asFloat? : Value → Option Float
  | .int n => some n.toFloat
  | .float x => some x
  | .text s => Decimal.float? (Text.strip s)
  | _ => none

def asText? : Value → Option String
  | .text s => some s
  | _ => none

def asBool? : Value → Option Bool
  | .bool b => some b
  | .int n => some (n != 0)
  | .text s =>
    let word := Text.lowerAscii s
    if word ∈ ["1", "true", "yes", "t", "y"] then some true
    else if word ∈ ["0", "false", "no", "f", "n", ""] then some false
    else none
  | _ => none

mutual

/-- The document a value is written as; a float that is not finite becomes null. -/
def toJson : Value → Json
  | .null => .null
  | .bool b => .bool b
  | .int n => .int n.toInt
  | .float x => if x.isFinite then .float x else .null
  | .text s => .str s
  | .blob bytes => .arr (bytes.map fun b => .int b.toNat)
  | .date d => .str d.text
  | .dateTime t => .str t.text
  | .json j => j
  | .array items => .arr (toJsonItems items)

def toJsonItems : List Value → List Json
  | [] => []
  | item :: rest => item.toJson :: toJsonItems rest

end

end Value

inductive Operand
  | value (v : Value)
  | raw (sql : String)

def Operand.isArray : Operand → Bool
  | .value v => v.isArray
  | .raw _ => false

def Operand.bindings : Operand → List Value
  | .value v => [v]
  | .raw _ => []

end SqlCompiler
