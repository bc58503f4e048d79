import SqlCompiler.Json.Basic
import SqlCompiler.Decimal.Reading

namespace SqlCompiler.Json

open Decimal (isDigit digitValue natOfDigits)

def pushDigits (significand : Nat) : List Char → Nat × List Char
  | [] => (significand, [])
  | d :: ds =>
    let next := 10 * significand + digitValue d
    if next < UInt64.size then pushDigits next ds else (significand, d :: ds)

def tenTo (n : Nat) : Float := Float.ofScientific 1 false n

def scaleDown (x : Float) (places : Nat) : Float :=
  if places ≤ 308 then x / tenTo places
  else if x == 0.0 then x
  else scaleDown (x / tenTo 308) (places - 308)
termination_by places

def scaled? (negative : Bool) (significand : Nat) (exponent : Int) : Option Json :=
  let start := Float.ofNat significand
  let size? :=
    if 0 ≤ exponent then
      if 308 < exponent then (if significand = 0 then some start else none)
      else
        let size := start * tenTo exponent.toNat
        if size.isInf then none else some size
    else
      some (scaleDown start (-exponent).toNat)
  size?.map fun size => .float (if negative then -size else size)

def exponentPart? : List Char → Option Int
  | [] => some 0
  | c :: cs =>
    if c = 'e' ∨ c = 'E' then
      match cs with
      | '-' :: ds => (Decimal.nat? ds).map fun n => -(n : Int)
      | '+' :: ds => (Decimal.nat? ds).map fun n => (n : Int)
      | ds => (Decimal.nat? ds).map fun n => (n : Int)
    else
      none

def whole (negative : Bool) (n : Nat) : Json :=
  if negative then
    if n = 0 then .float (-0.0)
    else if Int64.minValue.toInt ≤ -(n : Int) then .int (-n)
    else .float (-(Float.ofNat n))
  else
    .int n

/-- A number as it is written: its leading digits, and the power of ten that multiplies them unless it is whole. -/
structure Numeral where
  negative : Bool
  significand : Nat
  exponent : Option Int
deriving DecidableEq

def Numeral.value? (n : Numeral) : Option Json :=
  match n.exponent with
  | none => some (whole n.negative n.significand)
  | some exponent => scaled? n.negative n.significand exponent

def unsigned? (negative : Bool) (cs : List Char) : Option Numeral :=
  let digits := cs.takeWhile isDigit
  let rest := cs.dropWhile isDigit
  if digits = [] ∨ (digits.head? = some '0' ∧ digits.length ≠ 1) then
    none
  else
    let (significand, dropped) := pushDigits 0 digits
    match rest with
    | [] => some ⟨negative, significand, if dropped = [] then none else some dropped.length⟩
    | '.' :: after =>
      let fraction := after.takeWhile isDigit
      if fraction = [] then
        none
      else
        let (significand, unused) := pushDigits significand fraction
        let places : Int := (fraction.length - unused.length : Nat)
        (exponentPart? (after.dropWhile isDigit)).map fun e =>
          ⟨negative, significand, some (dropped.length - places + e)⟩
    | _ => (exponentPart? rest).map fun e => ⟨negative, significand, some (dropped.length + e)⟩

def numeral? : List Char → Option Numeral
  | '-' :: cs => unsigned? true cs
  | cs => unsigned? false cs

end SqlCompiler.Json
