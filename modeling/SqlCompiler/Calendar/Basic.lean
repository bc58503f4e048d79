import SqlCompiler.Decimal.Layout

namespace SqlCompiler

def isLeapYear (year : Int) : Bool := year % 4 == 0 && (year % 100 != 0 || year % 400 == 0)

def daysInMonth (year : Int) (month : Nat) : Nat :=
  if month = 2 then (if isLeapYear year then 29 else 28)
  else if month = 4 ∨ month = 6 ∨ month = 9 ∨ month = 11 then 30
  else 31

def leastYear : Int := -262143

def greatestYear : Int := 262142

structure Date where
  year : Int
  month : Nat
  day : Nat
  year_mem : leastYear ≤ year ∧ year ≤ greatestYear
  month_mem : 1 ≤ month ∧ month ≤ 12
  day_mem : 1 ≤ day ∧ day ≤ daysInMonth year month
deriving DecidableEq

def Date.of? (year : Int) (month day : Nat) : Option Date :=
  if hy : leastYear ≤ year ∧ year ≤ greatestYear then
    if hm : 1 ≤ month ∧ month ≤ 12 then
      if hd : 1 ≤ day ∧ day ≤ daysInMonth year month then
        some ⟨year, month, day, hy, hm, hd⟩
      else none
    else none
  else none

structure Time where
  hour : Nat
  minute : Nat
  second : Nat
  nanos : Nat
  hour_lt : hour < 24
  minute_lt : minute < 60
  second_lt : second < 60
  nanos_lt : nanos < 2000000000
deriving DecidableEq

def Time.of? (hour minute second nanos : Nat) : Option Time :=
  if h : hour < 24 ∧ minute < 60 ∧ second < 60 ∧ nanos < 2000000000 then
    some ⟨hour, minute, second, nanos, h.1, h.2.1, h.2.2.1, h.2.2.2⟩
  else none

/-- The same second of the day, at its start. A leap second becomes the second before it. -/
def Time.wholeSecond (t : Time) : Time :=
  { t with nanos := 0, nanos_lt := by decide }

structure DateTime where
  date : Date
  time : Time
deriving DecidableEq

def padded (width : Nat) (n : Nat) : List Char :=
  let ds := Decimal.digits n
  List.replicate (width - ds.length) '0' ++ ds

def yearText (year : Int) : List Char :=
  if 0 ≤ year ∧ year ≤ 9999 then padded 4 year.toNat
  else (if year < 0 then '-' else '+') :: padded 4 year.natAbs

def Date.chars (d : Date) : List Char :=
  yearText d.year ++ ['-'] ++ padded 2 d.month ++ ['-'] ++ padded 2 d.day

/-- The number of the second. A leap second has the number after that of the second that it follows. -/
def Time.shownSecond (t : Time) : Nat := if 1000000000 ≤ t.nanos then t.second + 1 else t.second

def Time.chars (t : Time) : List Char :=
  padded 2 t.hour ++ [':'] ++ padded 2 t.minute ++ [':'] ++ padded 2 t.shownSecond

def Time.fraction (t : Time) : List Char :=
  let n := t.nanos % 1000000000
  if n = 0 then []
  else if n % 1000000 = 0 then '.' :: padded 3 (n / 1000000)
  else if n % 1000 = 0 then '.' :: padded 6 (n / 1000)
  else '.' :: padded 9 n

def Date.text (d : Date) : String := String.ofList d.chars

def Time.text (t : Time) : String := String.ofList t.chars

def DateTime.text (t : DateTime) : String := String.ofList (t.date.chars ++ [' '] ++ t.time.chars)

def DateTime.exactText (t : DateTime) : String :=
  String.ofList (t.date.chars ++ ['T'] ++ t.time.chars ++ t.time.fraction)

end SqlCompiler
