import SqlCompiler.Json.Number

namespace SqlCompiler.Json

inductive Token
  | openList
  | closeList
  | openObject
  | closeObject
  | comma
  | colon
  | text (codes : List Nat)
  | number (numeral : Numeral)
  | plain (value : Json)

def isSpace (c : Char) : Bool := c = ' ' || c = '\n' || c = '\t' || c = '\r'

def hexValue? (c : Char) : Option Nat :=
  if '0' ≤ c ∧ c ≤ '9' then some (c.toNat - '0'.toNat)
  else if 'a' ≤ c ∧ c ≤ 'f' then some (c.toNat - 'a'.toNat + 10)
  else if 'A' ≤ c ∧ c ≤ 'F' then some (c.toNat - 'A'.toNat + 10)
  else none

def unit? (a b c d : Char) : Option Nat := do
  let a ← hexValue? a
  let b ← hexValue? b
  let c ← hexValue? c
  let d ← hexValue? d
  return ((a * 16 + b) * 16 + c) * 16 + d

def simpleEscape? : Char → Option Nat
  | '\x22' => some 0x22
  | '\\' => some 0x5C
  | '/' => some 0x2F
  | 'b' => some 0x08
  | 'f' => some 0x0C
  | 'n' => some 0x0A
  | 'r' => some 0x0D
  | 't' => some 0x09
  | _ => none

/-- The codes of a text up to its closing quote, and what follows the quote. A code is a code point, or a 16-bit
unit written as an escape. -/
def textCodes : List Char → Option (List Nat × List Char)
  | [] => none
  | '\x22' :: rest => some ([], rest)
  | '\\' :: 'u' :: a :: b :: c :: d :: rest => do
    let code ← unit? a b c d
    let (codes, after) ← textCodes rest
    return (code :: codes, after)
  | '\\' :: c :: rest => do
    let code ← simpleEscape? c
    let (codes, after) ← textCodes rest
    return (code :: codes, after)
  | c :: rest =>
    if c.toNat < 0x20 then
      none
    else do
      let (codes, after) ← textCodes rest
      return (c.toNat :: codes, after)

theorem textCodes_length {cs : List Char} {codes : List Nat} {rest : List Char}
    (h : textCodes cs = some (codes, rest)) : rest.length < cs.length := by
  fun_induction textCodes cs generalizing codes rest <;>
    simp_all [Option.bind_eq_some_iff] <;> grind

def isHighUnit (n : Nat) : Bool := 0xD800 ≤ n && n < 0xDC00

def isLowUnit (n : Nat) : Bool := 0xDC00 ≤ n && n < 0xE000

/-- The characters of a list of codes. A high unit must be followed by a low one, with which it forms one
character. -/
def ofCodes : List Nat → Option (List Char)
  | [] => some []
  | [n] => if isHighUnit n || isLowUnit n then none else some [Char.ofNat n]
  | n :: m :: rest =>
    if isHighUnit n then
      if isLowUnit m then
        (ofCodes rest).map (Char.ofNat (0x10000 + (n - 0xD800) * 0x400 + (m - 0xDC00)) :: ·)
      else
        none
    else if isLowUnit n then
      none
    else
      (ofCodes (m :: rest)).map (Char.ofNat n :: ·)

def keyword? (cs : List Char) : Option Json :=
  if cs = "null".toList then some .null
  else if cs = "true".toList then some (.bool true)
  else if cs = "false".toList then some (.bool false)
  else none

def isNumberChar (c : Char) : Bool :=
  Decimal.isDigit c || c = '+' || c = '-' || c = '.' || c = 'e' || c = 'E'

def mark? : Char → Option Token
  | '[' => some .openList
  | ']' => some .closeList
  | '\x7b' => some .openObject
  | '\x7d' => some .closeObject
  | ',' => some .comma
  | ':' => some .colon
  | _ => none

theorem length_dropWhile_le (p : Char → Bool) (cs : List Char) : (cs.dropWhile p).length ≤ cs.length := by
  simpa using (List.dropWhile_suffix p).length_le

def tokens (cs : List Char) : Option (List Token) :=
  match cs with
  | [] => some []
  | c :: rest =>
    if isSpace c then
      tokens rest
    else
      match mark? c with
      | some mark => (tokens rest).map (mark :: ·)
      | none =>
        if c = '\x22' then
          match _found : textCodes rest with
          | none => none
          | some (codes, after) => (tokens after).map (.text codes :: ·)
        else if c = '-' ∨ Decimal.isDigit c then do
          let numeral ← numeral? (c :: rest.takeWhile isNumberChar)
          let later ← tokens (rest.dropWhile isNumberChar)
          return .number numeral :: later
        else do
          let value ← keyword? (c :: rest.takeWhile Char.isAlpha)
          let later ← tokens (rest.dropWhile Char.isAlpha)
          return .plain value :: later
termination_by cs.length
decreasing_by
  · simp
  · simp
  · have := textCodes_length _found; simp; omega
  · have := length_dropWhile_le isNumberChar rest; simp; omega
  · have := length_dropWhile_le Char.isAlpha rest; simp; omega

inductive Frame
  | list (items : List Json)
  | object (fields : List (String × Json)) (name : String)

/-- What has been read, and so what may follow. -/
inductive Reading
  | value (outer : List Frame)
  | listStart (outer : List Frame)
  | objectStart (outer : List Frame)
  | item (items : List Json) (outer : List Frame)
  | field (fields : List (String × Json)) (outer : List Frame)
  | key (fields : List (String × Json)) (outer : List Frame)
  | afterKey (fields : List (String × Json)) (name : String) (outer : List Frame)
  | finished (value : Json)

def supply (value : Json) : List Frame → Reading
  | [] => .finished value
  | .list items :: outer => .item (value :: items) outer
  | .object fields name :: outer => .field ((name, value) :: fields) outer

def depthLimit : Nat := 127

def isSkipped (counts : String → Bool) (outer : List Frame) : Bool :=
  match outer.getLast? with
  | some (.object _ name) => !counts name
  | _ => false

def mayOpen (counts : String → Bool) (outer : List Frame) : Bool :=
  isSkipped counts outer || outer.length < depthLimit

def textOf? (codes : List Nat) : Option String := (ofCodes codes).map String.ofList

def startValue (counts : String → Bool) (outer : List Frame) : Token → Option Reading
  | .openList => if mayOpen counts outer then some (.listStart outer) else none
  | .openObject => if mayOpen counts outer then some (.objectStart outer) else none
  | .text codes =>
    if isSkipped counts outer then some (supply .null outer)
    else (textOf? codes).map fun s => supply (.str s) outer
  | .number numeral =>
    if isSkipped counts outer then some (supply .null outer)
    else numeral.value?.map fun value => supply value outer
  | .plain value => some (supply value outer)
  | _ => none

def nameField (counts : String → Bool) (fields : List (String × Json)) (outer : List Frame) (codes : List Nat) :
    Option Reading :=
  if isSkipped counts outer then some (.afterKey fields "" outer)
  else (textOf? codes).map fun name => .afterKey fields name outer

def Reading.next (counts : String → Bool) : Reading → Token → Option Reading
  | .value outer, token => startValue counts outer token
  | .listStart outer, .closeList => some (supply (.arr []) outer)
  | .listStart outer, token => startValue counts (.list [] :: outer) token
  | .objectStart outer, .closeObject => some (supply (.obj []) outer)
  | .objectStart outer, .text codes => nameField counts [] outer codes
  | .item items outer, .comma => some (.value (.list items :: outer))
  | .item items outer, .closeList => some (supply (.arr items.reverse) outer)
  | .field fields outer, .comma => some (.key fields outer)
  | .field fields outer, .closeObject => some (supply (.obj fields.reverse) outer)
  | .key fields outer, .text codes => nameField counts fields outer codes
  | .afterKey fields name outer, .colon => some (.value (.object fields name :: outer))
  | _, _ => none

/-- The document of a text, if all fields of the whole document with other names than those that count are only to
have the right form. -/
def readCounting? (counts : String → Bool) (s : String) : Option Json := do
  let tokens ← tokens s.toList
  match ← tokens.foldlM (Reading.next counts) (.value []) with
  | .finished value => some value
  | _ => none

def read? (s : String) : Option Json := readCounting? (fun _ => true) s

def readRecord? (names : List String) (s : String) : Option Json := readCounting? names.contains s

end SqlCompiler.Json
