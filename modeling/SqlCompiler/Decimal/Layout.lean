import SqlCompiler.Decimal.Shortest

namespace SqlCompiler.Decimal

structure Layout where
  /-- Numbers from `10 ^ leastPlain` up to, not including, `10 ^ 16` have no exponent. -/
  leastPlain : Int
  plusSign : Bool
  tiesUp : Bool

def Layout.literal : Layout := ⟨-4, false, true⟩

def Layout.document : Layout := ⟨-5, true, false⟩

def digits (n : Nat) : List Char := Nat.toDigits 10 n

def plain (digits : List Char) (exponent : Int) : List Char :=
  if 0 ≤ exponent then
    digits ++ List.replicate exponent.toNat '0' ++ ['.', '0']
  else
    let places := (-exponent).toNat
    if places < digits.length then
      digits.take (digits.length - places) ++ '.' :: digits.drop (digits.length - places)
    else
      '0' :: '.' :: List.replicate (places - digits.length) '0' ++ digits

def withExponent (l : Layout) (ds : List Char) (exponent : Int) : List Char :=
  let power := exponent + ds.length - 1
  let mantissa := match ds with
    | [] => []
    | [d] => [d]
    | d :: rest => d :: '.' :: rest
  let sign := if power < 0 then ['-'] else if l.plusSign then ['+'] else []
  mantissa ++ ['e'] ++ sign ++ digits power.natAbs

def Layout.magnitude (l : Layout) (b : Binary) : List Char :=
  if b.mantissa = 0 then
    ['0', '.', '0']
  else
    let s := shortest l.tiesUp b
    let ds := digits s.coefficient
    let power := s.exponent + ds.length - 1
    if l.leastPlain ≤ power ∧ power < 16 then plain ds s.exponent else withExponent l ds s.exponent

def isNegative (x : Float) : Bool := x.toBits.toNat.testBit 63

/-- The text of a double; only literals and messages ever write one that is not finite. -/
def Layout.text (l : Layout) (x : Float) : String :=
  if x.isNaN then "NaN"
  else if x.isInf then (if isNegative x then "-inf" else "inf")
  else String.ofList ((if isNegative x then ['-'] else []) ++ l.magnitude (.ofBits x.toBits.toNat))

end SqlCompiler.Decimal
