import SqlCompiler.Catalog.Answer
import SqlCompiler.Query.Building
import SqlCompiler.Session.Basic
import SqlCompiler.Write.Change

namespace SqlCompiler.Query

def resultKey (column : String) : String := Text.lastPart '.' (aliasOf column)

def fetch (t : Target) (q : Query) : Session (List Row) := do Session.rows (← Session.of (q.selectStatement t))

def fetchFirst (t : Target) (q : Query) : Session (Option Row) := do return (← (q.withLimit 1).fetch t).head?

def fetchValue (t : Target) (q : Query) (column : String) : Session (Option Value) := do
  return (← (q.select [column]).fetchFirst t).bind (·.get? (resultKey column))

def pluck (t : Target) (q : Query) (column : String) : Session (List Value) := do
  return (← (q.select [column]).fetch t).map fun r => (r.get? (resultKey column)).getD .null

def fetchAggregate (t : Target) (q : Query) (function : AggregateFunction) (columns : List String) :
    Session (Option Value) := do
  let rows ← (q.toAggregate function columns).fetch t
  return (rows.head?.bind (·.get? "aggregate")).filter fun v => !v.isNull

def fetchCount (t : Target) (q : Query) : Session Int64 := do
  return ((← q.fetchAggregate t .count ["*"]).bind Value.asInt?).getD 0

def fetchSum (t : Target) (q : Query) (column : String) : Session Value := do
  return (← q.fetchAggregate t .sum [column]).getD (.int 0)

def hasRows (t : Target) (q : Query) : Session Bool := do
  let rows ← Session.rows (← Session.of (q.hasRowsStatement t))
  return rows.head?.any (·.flag "exists")

/-- Inserts rows; where no column gets a value there is nothing to send. -/
def runInsert (t : Target) (q : Query) (values : Values) : Session Bool := do
  if values.isEmpty then return true
  else Session.effect (← Session.of (q.insert t values))

def runInsertOrIgnore (t : Target) (q : Query) (values : Values) : Session UInt64 := do
  if values.isEmpty then return 0
  else Session.count (← Session.of (q.insertOrIgnore t values))

def runInsertReturningId (t : Target) (q : Query) (values : Values) (key : Option String) : Session Int64 := do
  let s ← Session.of (q.insertReturningId t values key)
  match t.dialect with
  | .postgres | .sqlServer => Session.of (generatedId (← Session.rows s) (key.getD "id"))
  | .mysql | .sqlite =>
    discard (Session.effect s)
    match ← Session.lastId with
    | some id => return id
    | none => Session.of (.error (.rows .noGeneratedId))

def runInsertFrom (t : Target) (q : Query) (columns : List String) (source : Query) : Session UInt64 := do
  Session.count (← Session.of (q.insertFrom t columns source))

def runUpsert (t : Target) (q : Query) (u : Upsert) : Session UInt64 := do
  if u.values.isEmpty then return 0
  else Session.count (← Session.of (q.upsert t u))

def runUpdate (t : Target) (q : Query) (r : Record) : Session UInt64 := do
  Session.count (← Session.of (q.update t r))

def runDelete (t : Target) (q : Query) : Session UInt64 := do Session.count (← Session.of (q.delete t))

def runTruncate (t : Target) (q : Query) : Session Unit := do Session.effects (← Session.of (q.truncate t))

end SqlCompiler.Query
