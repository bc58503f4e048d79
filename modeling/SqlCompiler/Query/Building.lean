import SqlCompiler.Query.Condition

namespace SqlCompiler

namespace Join

def table (kind : JoinKind) (name : String) : Join := ⟨kind, .table name, []⟩

def derived (kind : JoinKind) (query : Query) (label : String) : Join := ⟨kind, .derived query label, []⟩

def lateral (kind : JoinKind) (query : Query) (label : String) : Join := ⟨kind, .lateral query label, []⟩

def where_ (j : Join) (condition : Condition) (conjunction : Conjunction) : Join :=
  { j with on := Clause.add j.on condition conjunction false }

end Join

namespace Query

def hasUnions (q : Query) : Bool := !q.unions.isEmpty

def from_ (q : Query) (source : Source) : Query := { q with source := some source }

def select (q : Query) (columns : List String) : Query := { q with columns := columns.map .column }

def addSelect (q : Query) (columns : List Selection) : Query := { q with columns := q.columns ++ columns }

def withDistinct (q : Query) (distinct : Distinct) : Query := { q with distinct }

def withIndexHint (q : Query) (kind : HintKind) (indexes : String) : Query :=
  { q with indexHint := some ⟨kind, indexes⟩ }

def join (q : Query) (j : Join) : Query := { q with joins := q.joins ++ [j] }

def where_ (q : Query) (condition : Condition) (conjunction : Conjunction) (negated : Bool) : Query :=
  { q with wheres := Clause.add q.wheres condition conjunction negated }

def whereClause (q : Query) (clause : Clause) (conjunction : Conjunction) (negated : Bool) : Query :=
  { q with wheres := Clause.addClause q.wheres clause conjunction negated }

def groupBy (q : Query) (groups : List Grouping) : Query := { q with groups := q.groups ++ groups }

def having (q : Query) (condition : Condition) (conjunction : Conjunction) : Query :=
  { q with havings := Clause.add q.havings condition conjunction false }

def havingClause (q : Query) (clause : Clause) : Query :=
  { q with havings := Clause.addClause q.havings clause .and false }

def orderBy (q : Query) (order : Order) : Query :=
  if q.hasUnions then { q with unionOrders := q.unionOrders ++ [order] }
  else { q with orders := q.orders ++ [order] }

def reorder (q : Query) : Query := { q with orders := [], unionOrders := [] }

def withLimit (q : Query) (n : UInt64) : Query :=
  if q.hasUnions then { q with unionLimit := some n } else { q with limit := some n }

def withOffset (q : Query) (n : UInt64) : Query :=
  if q.hasUnions then { q with unionOffset := some n } else { q with offset := some n }

def greatest : Nat := UInt64.size - 1

/-- The number of rows before a page; pages count from one, and page zero is page one. -/
def pageOffset (page perPage : UInt64) : UInt64 :=
  UInt64.ofNat (min ((page.toNat - 1) * perPage.toNat) greatest)

def forPage (q : Query) (page perPage : UInt64) : Query :=
  (q.withOffset (pageOffset page perPage)).withLimit perPage

def withGroupLimit (q : Query) (count : UInt64) (column : String) : Query :=
  { q with groupLimit := some ⟨count, column⟩ }

def union (q : Query) (member : Query) (all : Bool) : Query :=
  { q with unions := q.unions ++ [⟨member, all⟩] }

def withLock (q : Query) (lock : Lock) : Query := { q with lock := some lock }

def withAggregate (q : Query) (function : AggregateFunction) (columns : List String) : Query :=
  { q with aggregate := some ⟨function, columns⟩ }

/-- The query for an aggregate over the rows of this one. The select list and the order go where they do not decide
which rows there are. -/
def toAggregate (q : Query) (function : AggregateFunction) (columns : List String) : Query :=
  let q := if q.unions.isEmpty ∧ q.havings.isEmpty then { q with columns := [] } else q
  let q := if q.groups.isEmpty then { q with orders := [] } else q
  q.withAggregate function columns

end Query

end SqlCompiler
