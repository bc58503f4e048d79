import SqlCompiler.Value.Basic
import SqlCompiler.Text.Blank

namespace SqlCompiler

inductive Piece
  | text (s : String)
  | param (v : Value)
  | raw (sql : String) (values : List Value)

def Piece.sql : Piece → String
  | .text s => s
  | .param _ => "?"
  | .raw sql _ => sql

def Piece.values : Piece → List Value
  | .text _ => []
  | .param v => [v]
  | .raw _ values => values

structure Sql where
  pieces : List Piece

namespace Sql

def empty : Sql := ⟨[]⟩

def ofText (s : String) : Sql := ⟨[.text s]⟩

def param (v : Value) : Sql := ⟨[.param v]⟩

def raw (sql : String) (values : List Value) : Sql := ⟨[.raw sql values]⟩

def append (a b : Sql) : Sql := ⟨a.pieces ++ b.pieces⟩

instance : Append Sql := ⟨append⟩

instance : Coe String Sql := ⟨ofText⟩

instance : Inhabited Sql := ⟨empty⟩

def textOf : List Piece → String
  | [] => ""
  | piece :: rest => piece.sql ++ textOf rest

def text (s : Sql) : String := textOf s.pieces

def values (s : Sql) : List Value := s.pieces.flatMap Piece.values

theorem append_assoc (a b c : Sql) : a ++ b ++ c = a ++ (b ++ c) := congrArg mk (List.append_assoc ..)

theorem textOf_append (a b : List Piece) : textOf (a ++ b) = textOf a ++ textOf b := by
  induction a with
  | nil => simp [textOf]
  | cons p a ih => simp [textOf, ih, String.append_assoc]

@[simp]
theorem text_append (a b : Sql) : (a ++ b).text = a.text ++ b.text := textOf_append a.pieces b.pieces

@[simp]
theorem values_append (a b : Sql) : (a ++ b).values = a.values ++ b.values :=
  List.flatMap_append

@[simp]
theorem text_ofText (s : String) : (ofText s).text = s := by simp [text, ofText, textOf, Piece.sql]

@[simp]
theorem values_ofText (s : String) : (ofText s).values = [] := rfl

@[simp]
theorem text_param (v : Value) : (param v).text = "?" := rfl

@[simp]
theorem values_param (v : Value) : (param v).values = [v] := rfl

def isEmpty (s : Sql) : Bool := s.text == ""

def join (separator : String) : List Sql → Sql
  | [] => empty
  | [s] => s
  | s :: next :: rest => s ++ ofText separator ++ join separator (next :: rest)

/-- The parts that write something, with blanks between them. -/
def concat (parts : List Sql) : Sql := join " " (parts.filter fun part => !part.isEmpty)

def Piece.trimEnd : Piece → Piece
  | .text s => .text (String.ofList (Text.trimEnd s.toList))
  | .param v => .param v
  | .raw sql values => .raw (String.ofList (Text.trimEnd sql.toList)) values

def trimPieces : List Piece → List Piece
  | [] => []
  | piece :: rest =>
    let kept := trimPieces rest
    if textOf kept = "" then Piece.trimEnd piece :: kept else piece :: kept

def trimEnd (s : Sql) : Sql := ⟨trimPieces s.pieces⟩

end Sql

def Operand.sql : Operand → Sql
  | .value v => .param v
  | .raw sql => .raw sql []

def parameters (operands : List Operand) : Sql := .join ", " (operands.map Operand.sql)

end SqlCompiler
