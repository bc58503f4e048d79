namespace SqlCompiler.Decimal

structure Binary where
  mantissa : Nat
  exponent : Int

def Binary.ofBits (bits : Nat) : Binary :=
  let fraction : Nat := bits % Nat.pow 2 52
  let field : Nat := bits / Nat.pow 2 52 % Nat.pow 2 11
  if field = 0 then ⟨fraction, -1074⟩ else ⟨fraction + Nat.pow 2 52, (field : Int) - 1075⟩

structure Scaled where
  coefficient : Nat
  exponent : Int
deriving DecidableEq

def digitCount (n : Nat) : Nat :=
  if n = 0 then 0 else digitCount (n / 10) + 1
termination_by n

def magnitude (numerator denominator : Nat) : Int :=
  if denominator ≤ numerator then
    digitCount (numerator / denominator)
  else
    1 - digitCount ((denominator - 1) / numerator)

/-- A binary number with the ends of its interval, as numerators over one denominator. -/
structure Interval where
  low : Nat
  value : Nat
  high : Nat
  closed : Bool
  denominator : Nat

def Binary.interval (b : Binary) : Interval :=
  let exponent := b.exponent - 2
  let scale := Nat.pow 2 exponent.toNat
  let below := if b.mantissa = Nat.pow 2 52 ∧ b.exponent ≠ -1074 then 1 else 2
  { low := (4 * b.mantissa - below) * scale
    value := 4 * b.mantissa * scale
    high := (4 * b.mantissa + 2) * scale
    closed := b.mantissa % 2 == 0
    denominator := Nat.pow 2 (-exponent).toNat }

def Interval.covers (i : Interval) (candidate : Nat) (exponent : Int) : Bool :=
  let point := candidate * Nat.pow 10 exponent.toNat * i.denominator
  let unit := Nat.pow 10 (-exponent).toNat
  if i.closed then
    i.low * unit ≤ point && point ≤ i.high * unit
  else
    i.low * unit < point && point < i.high * unit

/-- The candidate on the grid of multiples of `10 ^ exponent`: of two that round to the number the nearer, and on
a tie the upper or the even one. -/
def Interval.onGrid? (i : Interval) (tiesUp : Bool) (exponent : Int) : Option Nat :=
  let numerator := i.value * Nat.pow 10 (-exponent).toNat
  let unit := Nat.pow 10 exponent.toNat * i.denominator
  let floor := numerator / unit
  let twice := 2 * (numerator % unit)
  let upper := unit < twice || (twice == unit && (tiesUp || floor % 2 == 1))
  match i.covers floor exponent, i.covers (floor + 1) exponent with
  | true, true => some (if upper then floor + 1 else floor)
  | true, false => some floor
  | false, true => some (floor + 1)
  | false, false => none

def Scaled.withoutZeros (s : Scaled) : Scaled :=
  if s.coefficient ≠ 0 ∧ s.coefficient % 10 = 0 then
    Scaled.withoutZeros ⟨s.coefficient / 10, s.exponent + 1⟩
  else
    s
termination_by s.coefficient

/-- The shortest decimal of a positive binary number. Seventeen digits always suffice. -/
def shortest (tiesUp : Bool) (b : Binary) : Scaled :=
  let i := b.interval
  let top := magnitude i.value i.denominator
  let found : Option Scaled := (List.range 17).findSome? fun (n : Nat) =>
    let exponent := top - (n + 1)
    (i.onGrid? tiesUp exponent).map fun candidate => ⟨candidate, exponent⟩
  (found.getD ⟨i.value / i.denominator, 0⟩).withoutZeros

end SqlCompiler.Decimal
