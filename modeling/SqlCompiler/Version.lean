import SqlCompiler.Decimal.Reading
import SqlCompiler.Text.Blank
import SqlCompiler.Text.Split

namespace SqlCompiler

structure Version where
  major : UInt32
  minor : UInt32
  patch : UInt32
  mariadb : Bool := false
deriving DecidableEq

namespace Version

/-- No earlier than the given version; the flavour of the server plays no part. -/
def atLeast (v : Version) (major minor patch : UInt32) : Bool :=
  major < v.major || (v.major == major && (minor < v.minor || (v.minor == minor && patch ≤ v.patch)))

def chars (v : Version) : List Char :=
  let number (n : UInt32) := Nat.toDigits 10 n.toNat
  number v.major ++ ['.'] ++ number v.minor ++ ['.'] ++ number v.patch ++
    (if v.mariadb then "-MariaDB".toList else [])

def text (v : Version) : String := String.ofList v.chars

/-- The first code points of the decimal digits of each script, which stand in tens. -/
def zeroDigits : List Nat :=
  [0x30, 0x660, 0x6F0, 0x7C0, 0x966, 0x9E6, 0xA66, 0xAE6, 0xB66, 0xBE6, 0xC66, 0xCE6, 0xD66, 0xDE6, 0xE50,
    0xED0, 0xF20, 0x1040, 0x1090, 0x17E0, 0x1810, 0x1946, 0x19D0, 0x1A80, 0x1A90, 0x1B50, 0x1BB0, 0x1C40,
    0x1C50, 0xA620, 0xA8D0, 0xA900, 0xA9D0, 0xA9F0, 0xAA50, 0xABF0, 0xFF10, 0x104A0, 0x10D30, 0x10D40,
    0x11066, 0x110F0, 0x11136, 0x111D0, 0x112F0, 0x11450, 0x114D0, 0x11650, 0x116C0, 0x116D0, 0x116DA,
    0x11730, 0x118E0, 0x11950, 0x11BF0, 0x11C50, 0x11D50, 0x11DA0, 0x11F50, 0x16130, 0x16A60, 0x16AC0,
    0x16B50, 0x16D70, 0x1CCF0, 0x1D7CE, 0x1D7D8, 0x1D7E2, 0x1D7EC, 0x1D7F6, 0x1E140, 0x1E2F0, 0x1E4F0,
    0x1E5F1, 0x1E950, 0x1FBF0]

def isDigit (c : Char) : Bool := zeroDigits.any fun first => first ≤ c.toNat && c.toNat < first + 10

def partsAtStart (cs : List Char) : Option (List (List Char)) :=
  let number (cs : List Char) := (cs.takeWhile isDigit, cs.dropWhile isDigit)
  match number cs with
  | ([], _) => none
  | (major, '.' :: rest) =>
    match number rest with
    | ([], _) => none
    | (minor, '.' :: rest) =>
      match number rest with
      | ([], _) => some [major, minor]
      | (patch, _) => some [major, minor, patch]
    | (minor, _) => some [major, minor]
  | _ => none

def findParts : List Char → Option (List (List Char))
  | [] => none
  | c :: cs => partsAtStart (c :: cs) <|> findParts cs

def number? (ds : List Char) : Option UInt32 := (Decimal.natBelow? UInt32.size ds).map UInt32.ofNat

/-- A text that names MariaDB may start with a version that stands there for the sake of replication. -/
def withoutReplicationVersion (cs : List Char) : List Char :=
  match cs with
  | '5' :: '.' :: '5' :: '.' :: '5' :: '-' :: rest => rest
  | _ => cs

def ofText? (s : String) : Option Version := do
  let mariadb := Text.contains (Text.lowerAscii s) "mariadb"
  let cs := if mariadb then withoutReplicationVersion s.toList else s.toList
  match ← findParts cs with
  | [major, minor] => return ⟨← number? major, ← number? minor, 0, mariadb⟩
  | [major, minor, patch] => return ⟨← number? major, ← number? minor, ← number? patch, mariadb⟩
  | _ => none

end Version

end SqlCompiler
