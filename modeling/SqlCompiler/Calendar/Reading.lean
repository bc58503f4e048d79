import SqlCompiler.Calendar.Basic
import SqlCompiler.Decimal.Reading
import SqlCompiler.Text.Blank

namespace SqlCompiler.Calendar

open Decimal (isDigit natOfDigits)
open Text (trimStart)

abbrev Scan := StateT (List Char) Option

def number (least most : Nat) : Scan Nat := fun cs =>
  let ds := (cs.take most).takeWhile isDigit
  if ds.length < least then none else some (natOfDigits ds, cs.drop ds.length)

def anyNumber : Scan Nat := fun cs => number 1 cs.length cs

def literal (c : Char) : Scan Unit
  | d :: rest => if d = c then some ((), rest) else none
  | [] => none

def blanks : Scan Unit := fun cs => some ((), trimStart cs)

def field : Scan Nat := do
  blanks
  number 1 2

def year : Scan Int := fun cs =>
  match trimStart cs with
  | '-' :: rest => (anyNumber rest).map fun (n, after) => (-(n : Int), after)
  | '+' :: rest => (anyNumber rest).map fun (n, after) => ((n : Int), after)
  | rest => (number 1 4 rest).map fun (n, after) => ((n : Int), after)

def date : Scan Date := do
  let y ← year
  literal '-'
  let m ← field
  literal '-'
  let d ← field
  Date.of? y m d

/-- The time with a second from 0 to 60, the last of which is a leap second. -/
def timeOf? (hour minute second nanos : Nat) : Option Time :=
  if second = 60 then Time.of? hour minute 59 (nanos + 1000000000) else Time.of? hour minute second nanos

/-- The digits that follow a point, as nanoseconds; digits beyond the ninth do not count. -/
def nanoseconds : Scan Nat := fun cs =>
  (number 1 9 cs).map fun (n, rest) =>
    (n * Nat.pow 10 (9 - (cs.length - rest.length)), rest.dropWhile isDigit)

def fraction : Scan Nat
  | '.' :: cs => nanoseconds cs
  | cs => some (0, cs)

def clock (withFraction : Bool) : Scan Time := do
  let h ← field
  literal ':'
  let m ← field
  literal ':'
  let s ← field
  let nanos ← if withFraction then fraction else pure 0
  timeOf? h m s nanos

def shortClock : Scan Time := do
  let h ← field
  literal ':'
  let m ← field
  timeOf? h m 0 0

def complete {α : Type} (scan : Scan α) (cs : List Char) : Option α :=
  match scan cs with
  | some (a, []) => some a
  | _ => none

def spacedDateTime (withFraction : Bool) : Scan DateTime := do
  let d ← date
  blanks
  let t ← clock withFraction
  return ⟨d, t⟩

def letteredDateTime : Scan DateTime := do
  let d ← date
  literal 'T'
  let t ← clock false
  return ⟨d, t⟩

def oneOf (choices : List Char) : Scan Char
  | c :: rest => if c ∈ choices then some (c, rest) else none
  | [] => none

def offset : Scan Unit := do
  let c ← oneOf ['Z', 'z', '+', '-', '−']
  if c = 'Z' ∨ c = 'z' then
    return
  let hours ← number 2 2
  literal ':'
  let minutes ← number 2 2
  if hours < 24 ∧ minutes < 60 then return else failure

def exchanged : Scan DateTime := do
  let y ← number 4 4
  literal '-'
  let m ← number 2 2
  literal '-'
  let d ← number 2 2
  let _ ← oneOf ['T', 't', ' ']
  let h ← number 2 2
  literal ':'
  let minute ← number 2 2
  literal ':'
  let s ← number 2 2
  let nanos ← fraction
  offset
  return ⟨← Date.of? y m d, ← timeOf? h minute s nanos⟩

def dateTime? (s : String) : Option DateTime :=
  let cs := Text.trim s.toList
  complete (spacedDateTime false) cs <|> complete letteredDateTime cs <|> complete (spacedDateTime true) cs <|>
    complete exchanged cs

def date? (s : String) : Option Date :=
  (dateTime? s).map (·.date) <|> complete date (Text.trim s.toList)

def time? (s : String) : Option Time :=
  let cs := Text.trim s.toList
  (complete (clock false) cs <|> complete shortClock cs <|> (dateTime? s).map (·.time)).map Time.wholeSecond

end SqlCompiler.Calendar
