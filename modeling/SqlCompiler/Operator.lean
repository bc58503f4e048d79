import SqlCompiler.Text.Blank

namespace SqlCompiler

inductive Operator
  | eq | notEq | lt | ltEq | gt | gtEq | nullSafeEq
  | like | notLike | likeBinary | iLike | notILike
  | rLike | notRLike | regexp | notRegexp | similarTo | notSimilarTo | glob
  | match | iMatch | notMatch | notIMatch
  | contains | containedBy | overlaps
  | bitAnd | bitOr | bitXor | shiftLeft | shiftRight
deriving DecidableEq, Repr

namespace Operator

def all : List Operator :=
  [.eq, .notEq, .lt, .ltEq, .gt, .gtEq, .nullSafeEq, .like, .notLike, .likeBinary, .iLike, .notILike, .rLike,
    .notRLike, .regexp, .notRegexp, .similarTo, .notSimilarTo, .glob, .match, .iMatch, .notMatch, .notIMatch,
    .contains, .containedBy, .overlaps, .bitAnd, .bitOr, .bitXor, .shiftLeft, .shiftRight]

theorem mem_all (op : Operator) : op ∈ all := by cases op <;> decide

def sql : Operator → String
  | .eq => "="
  | .notEq => "<>"
  | .lt => "<"
  | .ltEq => "<="
  | .gt => ">"
  | .gtEq => ">="
  | .nullSafeEq => "<=>"
  | .like => "LIKE"
  | .notLike => "NOT LIKE"
  | .likeBinary => "LIKE BINARY"
  | .iLike => "ILIKE"
  | .notILike => "NOT ILIKE"
  | .rLike => "RLIKE"
  | .notRLike => "NOT RLIKE"
  | .regexp => "REGEXP"
  | .notRegexp => "NOT REGEXP"
  | .similarTo => "SIMILAR TO"
  | .notSimilarTo => "NOT SIMILAR TO"
  | .glob => "GLOB"
  | .match => "~"
  | .iMatch => "~*"
  | .notMatch => "!~"
  | .notIMatch => "!~*"
  | .contains => "@>"
  | .containedBy => "<@"
  | .overlaps => "&&"
  | .bitAnd => "&"
  | .bitOr => "|"
  | .bitXor => "^"
  | .shiftLeft => "<<"
  | .shiftRight => ">>"

def isBitwise : Operator → Bool
  | .bitAnd | .bitOr | .bitXor | .shiftLeft | .shiftRight => true
  | _ => false

def isLike : Operator → Bool
  | .like | .notLike | .likeBinary | .iLike | .notILike => true
  | _ => false

/-- The operator with a spelling; `!=` is a second spelling of `<>`. -/
def ofText? (s : String) : Option Operator :=
  let words := (Text.words s.toList).map String.ofList
  let spelling := Text.upperAscii (" ".intercalate words)
  if spelling = "!=" then some .notEq else all.find? fun op => op.sql == spelling

end Operator

end SqlCompiler
