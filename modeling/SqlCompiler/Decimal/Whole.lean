import SqlCompiler.Decimal.Layout

namespace SqlCompiler.Decimal

/-- `numerator / denominator` is the number; one of the two powers is one. -/
def Binary.numerator (b : Binary) : Nat := b.mantissa * Nat.pow 2 b.exponent.toNat

def Binary.denominator (b : Binary) : Nat := Nat.pow 2 (-b.exponent).toNat

def magnitudeOf (x : Float) : Binary := .ofBits x.toBits.toNat

def isWhole (x : Float) : Bool := (magnitudeOf x).numerator % (magnitudeOf x).denominator == 0

def cut (x : Float) : Int :=
  let whole := (magnitudeOf x).numerator / (magnitudeOf x).denominator
  if isNegative x then -whole else whole

/-- A double cut toward zero, or the nearest number that 64 bits hold, which is also taken for an infinity; zero for
what is no number. -/
def toInt64 (x : Float) : Int64 := if x.isNaN then 0 else Int64.ofIntClamp (cut x)

end SqlCompiler.Decimal
