import SqlCompiler.Json.Basic
import SqlCompiler.Decimal.Layout

namespace SqlCompiler.Json

def hexDigit (n : Nat) : Char := (Nat.digitChar n)

def escapeChar (c : Char) : List Char :=
  if c = '\x22' then ['\\', '\x22']
  else if c = '\\' then ['\\', '\\']
  else if c = '\n' then ['\\', 'n']
  else if c = '\r' then ['\\', 'r']
  else if c = '\t' then ['\\', 't']
  else if c = '\x08' then ['\\', 'b']
  else if c = '\x0c' then ['\\', 'f']
  else if c.toNat < 0x20 then ['\\', 'u', '0', '0', hexDigit (c.toNat / 16), hexDigit (c.toNat % 16)]
  else [c]

def quoted (s : String) : String :=
  String.ofList (['\x22'] ++ s.toList.flatMap escapeChar ++ ['\x22'])

mutual

def text : Json → String
  | .null => "null"
  | .bool b => if b then "true" else "false"
  | .int n => toString n
  | .float x => if x.isFinite then Decimal.Layout.document.text x else "null"
  | .str s => quoted s
  | .arr items => "[" ++ itemTexts items ++ "]"
  | .obj fields => "\x7b" ++ fieldTexts fields ++ "\x7d"

def itemTexts : List Json → String
  | [] => ""
  | [item] => item.text
  | item :: next :: rest => item.text ++ "," ++ itemTexts (next :: rest)

def fieldTexts : List (String × Json) → String
  | [] => ""
  | [(name, value)] => quoted name ++ ":" ++ value.text
  | (name, value) :: next :: rest => quoted name ++ ":" ++ value.text ++ "," ++ fieldTexts (next :: rest)

end

end SqlCompiler.Json
