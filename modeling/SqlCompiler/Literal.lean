import SqlCompiler.Identifier

namespace SqlCompiler

def hexBytes (bytes : List UInt8) : String :=
  String.ofList (bytes.flatMap fun b => [Nat.digitChar (b.toNat / 16), Nat.digitChar (b.toNat % 16)])

namespace Dialect

def textLiteral (d : Dialect) (s : String) : Except Error String :=
  if s.toList.contains '\x00' then
    .error (.invalid .nulCharacter)
  else if d.hasBackslashEscapes then
    .ok (quoteText (String.ofList (Text.double '\\' s.toList)))
  else
    .ok (quoteText s)

def boolLiteral (d : Dialect) (b : Bool) : String :=
  match d with
  | .postgres => if b then "TRUE" else "FALSE"
  | _ => if b then "1" else "0"

def blobLiteral (d : Dialect) (bytes : List UInt8) : String :=
  match d with
  | .postgres => "'\\x" ++ hexBytes bytes ++ "'::bytea"
  | .sqlServer => "0x" ++ hexBytes bytes
  | .mysql | .sqlite => "X'" ++ hexBytes bytes ++ "'"

mutual

/-- The literal of a value. Arrays have literals of their own in Postgres and are documents elsewhere. -/
def literal (d : Dialect) : Value → Except Error String
  | .null => .ok "NULL"
  | .bool b => .ok (d.boolLiteral b)
  | .int n => .ok (toString n.toInt)
  | .float x =>
    if x.isFinite then .ok (Decimal.Layout.literal.text x) else .error (.invalid (.notFinite x))
  | .text s => d.textLiteral s
  | .blob bytes => .ok (d.blobLiteral bytes)
  | .date day => d.textLiteral day.text
  | .dateTime t => d.textLiteral t.text
  | .json j => d.textLiteral j.text
  | .array items =>
    match d with
    | .postgres => do return "ARRAY[" ++ ", ".intercalate (← literals .postgres items) ++ "]"
    | _ => d.textLiteral (Value.array items).toJson.text

def literals (d : Dialect) : List Value → Except Error (List String)
  | [] => .ok []
  | v :: rest => do
    let first ← literal d v
    let later ← literals d rest
    return first :: later

end

end Dialect

end SqlCompiler
