import SqlCompiler.Calendar.Reading
import SqlCompiler.Error

namespace SqlCompiler.DatePart

def unreadable {α : Type} (part : DatePart) (v : Value) : Except Error α :=
  .error (.invalid (.unreadableDatePart part v))

def dateOf (part : DatePart) (v : Value) : Except Error Date :=
  match v with
  | .date d => .ok d
  | .dateTime t => .ok t.date
  | .text s =>
    match Calendar.date? s with
    | some d => .ok d
    | none => part.unreadable v
  | _ => part.unreadable v

def timeOf (part : DatePart) (v : Value) : Except Error Time :=
  match v with
  | .dateTime t => .ok t.time
  | .text s =>
    match Calendar.time? s with
    | some t => .ok t
    | none => part.unreadable v
  | _ => part.unreadable v

def numberOf (part : DatePart) (v : Value) : Except Error Int64 :=
  match v with
  | .int n => .ok n
  | .text s =>
    match Decimal.int64? (Text.strip s) with
    | some n => .ok n
    | none => part.unreadable v
  | _ => part.unreadable v

def twoDigits (part : DatePart) (low high : Int) (n : Int) : Except Error Value :=
  if low ≤ n ∧ n ≤ high then .ok (.text (String.ofList (padded 2 n.toNat)))
  else .error (.invalid (.datePartOutOfRange part n))

/-- The value of the part in the form it is compared in. -/
def normalizeValue (part : DatePart) (v : Value) : Except Error Value :=
  match part with
  | .date => do return .text (← part.dateOf v).text
  | .time => do return .text (← part.timeOf v).text
  | .day =>
    match v with
    | .date d => part.twoDigits 1 31 d.day
    | .dateTime t => part.twoDigits 1 31 t.date.day
    | _ => do part.twoDigits 1 31 (← part.numberOf v).toInt
  | .month =>
    match v with
    | .date d => part.twoDigits 1 12 d.month
    | .dateTime t => part.twoDigits 1 12 t.date.month
    | _ => do part.twoDigits 1 12 (← part.numberOf v).toInt
  | .year =>
    match v with
    | .date d => .ok (.int (Int64.ofInt d.year))
    | .dateTime t => .ok (.int (Int64.ofInt t.date.year))
    | _ => do return .int (← part.numberOf v)

def normalize (part : DatePart) : Operand → Except Error Operand
  | .raw sql => .ok (.raw sql)
  | .value v => do return .value (← part.normalizeValue v)

end SqlCompiler.DatePart
