namespace SqlCompiler

inductive Conjunction
  | and
  | or
deriving DecidableEq

def Conjunction.sql : Conjunction → String
  | .and => "AND"
  | .or => "OR"

inductive DatePart
  | date
  | time
  | day
  | month
  | year
deriving DecidableEq

def DatePart.name : DatePart → String
  | .date => "date"
  | .time => "time"
  | .day => "day"
  | .month => "month"
  | .year => "year"

def DatePart.function : DatePart → String
  | .date => "DATE"
  | .time => "TIME"
  | .day => "DAY"
  | .month => "MONTH"
  | .year => "YEAR"

inductive FullTextMode
  | natural
  | boolean
  | phrase
  | websearch
deriving DecidableEq

def FullTextMode.name : FullTextMode → String
  | .natural => "Natural"
  | .boolean => "Boolean"
  | .phrase => "Phrase"
  | .websearch => "Websearch"

structure FullTextOptions where
  mode : FullTextMode := .natural
  language : Option String := none
  expanded : Bool := false
deriving DecidableEq

inductive Direction
  | asc
  | desc
deriving DecidableEq

def Direction.sql : Direction → String
  | .asc => "ASC"
  | .desc => "DESC"

inductive JoinKind
  | inner
  | left
  | right
  | cross
deriving DecidableEq

def JoinKind.sql : JoinKind → String
  | .inner => "INNER"
  | .left => "LEFT"
  | .right => "RIGHT"
  | .cross => "CROSS"

inductive Distinct
  | off
  | rows
  | columns (names : List String)
deriving DecidableEq

inductive HintKind
  | use
  | force
  | ignore
deriving DecidableEq

structure IndexHint where
  kind : HintKind
  indexes : String
deriving DecidableEq

inductive AggregateFunction
  | count
  | min
  | max
  | sum
  | avg
deriving DecidableEq

def AggregateFunction.sql : AggregateFunction → String
  | .count => "COUNT"
  | .min => "MIN"
  | .max => "MAX"
  | .sum => "SUM"
  | .avg => "AVG"

structure Aggregate where
  function : AggregateFunction
  columns : List String
deriving DecidableEq

/-- At most `count` rows for each value of a column. -/
structure GroupLimit where
  count : UInt64
  column : String
deriving DecidableEq

inductive Lock
  | update
  | shared
  | raw (sql : String)
deriving DecidableEq

end SqlCompiler
