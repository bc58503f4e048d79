import SqlCompiler.Decimal.Layout

namespace SqlCompiler.Decimal

def isDigit (c : Char) : Bool := '0' ≤ c && c ≤ '9'

def digitValue (c : Char) : Nat := c.toNat - '0'.toNat

def natOfDigits (ds : List Char) : Nat := ds.foldl (fun n d => 10 * n + digitValue d) 0

def nat? (cs : List Char) : Option Nat :=
  if cs ≠ [] ∧ cs.all isDigit then some (natOfDigits cs) else none

def int? : List Char → Option Int
  | '-' :: cs => (nat? cs).map fun n => -(n : Int)
  | '+' :: cs => (nat? cs).map (·)
  | cs => (nat? cs).map (·)

def int64? (s : String) : Option Int64 :=
  match int? s.toList with
  | some n => if Int64.minValue.toInt ≤ n ∧ n ≤ Int64.maxValue.toInt then some (Int64.ofInt n) else none
  | none => none

def natBelow? (bound : Nat) (cs : List Char) : Option Nat :=
  let ds := match cs with
    | '+' :: rest => rest
    | _ => cs
  match nat? ds with
  | some n => if n < bound then some n else none
  | none => none

structure Written where
  negative : Bool
  coefficient : Nat
  exponent : Int

def exponent? : List Char → Option Int
  | [] => some 0
  | c :: cs => if c = 'e' ∨ c = 'E' then int? cs else none

def unsigned? (negative : Bool) (cs : List Char) : Option Written :=
  let whole := cs.takeWhile isDigit
  let (fraction, rest) := match cs.dropWhile isDigit with
    | '.' :: after => (after.takeWhile isDigit, after.dropWhile isDigit)
    | after => ([], after)
  if whole = [] ∧ fraction = [] then
    none
  else
    (exponent? rest).map fun e => ⟨negative, natOfDigits (whole ++ fraction), e - fraction.length⟩

/-- Values beyond every double; the bound keeps the powers of ten small. -/
def Written.tooLarge (w : Written) : Bool := 400 < w.exponent + digitCount w.coefficient

def Written.tooSmall (w : Written) : Bool := w.exponent + digitCount w.coefficient < -400

def Written.toFloat (w : Written) : Float :=
  let size :=
    if w.coefficient = 0 ∨ w.tooSmall then 0.0
    else if w.tooLarge then 1.0 / 0.0
    else Float.ofScientific w.coefficient (w.exponent < 0) w.exponent.natAbs
  if w.negative then -size else size

def Written.toFloat32 (w : Written) : Float32 :=
  let size : Float32 :=
    if w.coefficient = 0 ∨ w.tooSmall then 0.0
    else if w.tooLarge then 1.0 / 0.0
    else Float32.ofScientific w.coefficient (w.exponent < 0) w.exponent.natAbs
  if w.negative then -size else size

def named? (cs : List Char) : Option Float :=
  let word := cs.map Char.toLower
  if word = "inf".toList ∨ word = "infinity".toList then some (1.0 / 0.0)
  else if word = "nan".toList then some (0.0 / 0.0)
  else none

def splitSign : List Char → Bool × List Char
  | '-' :: cs => (true, cs)
  | '+' :: cs => (false, cs)
  | cs => (false, cs)

def float? (s : String) : Option Float :=
  let (negative, cs) := splitSign s.toList
  match named? cs with
  | some x => some (if negative then -x else x)
  | none => (unsigned? negative cs).map Written.toFloat

def float32? (s : String) : Option Float :=
  let (negative, cs) := splitSign s.toList
  match named? cs with
  | some x => some (if negative then -x else x)
  | none => (unsigned? negative cs).map fun w => w.toFloat32.toFloat

end SqlCompiler.Decimal
