import SqlCompiler.Literal

namespace SqlCompiler

/-- Where a scan of SQL text stands. -/
inductive Quoting
  | outside
  | literal
  | escaped
  | name
deriving DecidableEq

def Quoting.next (d : Dialect) (q : Quoting) (c : Char) : Quoting :=
  match q with
  | .outside => if c = '\x27' then .literal else if c = d.openQuote then .name else .outside
  | .literal =>
    if d.hasBackslashEscapes ∧ c = '\\' then .escaped else if c = '\x27' then .outside else .literal
  | .escaped => .literal
  | .name => if c = d.closeQuote then .outside else .name

def Quoting.after (d : Dialect) (q : Quoting) (cs : List Char) : Quoting := cs.foldl (Quoting.next d) q

/-- The placeholders of a text, by the number of bytes before each. -/
def positionsFrom (d : Dialect) (q : Quoting) (offset : Nat) : List Char → List Nat
  | [] => []
  | c :: cs =>
    let later := positionsFrom d (q.next d c) (offset + c.utf8Size) cs
    if q = .outside ∧ c = '?' then offset :: later else later

def placeholderCount (d : Dialect) (q : Quoting) : List Char → Nat
  | [] => 0
  | c :: cs => placeholderCount d (q.next d c) cs + (if q = .outside ∧ c = '?' then 1 else 0)

def fill (d : Dialect) (q : Quoting) : List String → List Char → List Char
  | _, [] => []
  | literals, c :: cs =>
    if q = .outside ∧ c = '?' then
      match literals with
      | [] => c :: fill d (q.next d c) [] cs
      | literal :: rest => literal.toList ++ fill d (q.next d c) rest cs
    else
      c :: fill d (q.next d c) literals cs

theorem length_positionsFrom (d : Dialect) (q : Quoting) (offset : Nat) (cs : List Char) :
    (positionsFrom d q offset cs).length = placeholderCount d q cs := by
  induction cs generalizing q offset with
  | nil => rfl
  | cons c cs ih =>
    simp only [positionsFrom, placeholderCount]
    split <;> simp [ih]

structure Statement where
  sql : String
  bindings : List Value

namespace Dialect

def positions (d : Dialect) (sql : String) : List Nat := positionsFrom d .outside 0 sql.toList

def placeholders (d : Dialect) (sql : String) : Nat := placeholderCount d .outside sql.toList

def substitute (d : Dialect) (sql : String) (bindings : List Value) : Except Error String :=
  if d.placeholders sql = bindings.length then do
    return String.ofList (fill d .outside (← d.literals bindings) sql.toList)
  else
    .error (.bindingCount (d.placeholders sql) bindings.length)

/-- A statement, provided that it has a value for every placeholder and no other. -/
def finish (d : Dialect) (sql : String) (bindings : List Value) : Except Error Statement :=
  if d.placeholders sql = bindings.length then .ok ⟨sql, bindings⟩
  else .error (.bindingCount (d.placeholders sql) bindings.length)

theorem of_finish {d : Dialect} {text : String} {values : List Value} {st : Statement}
    (finished : d.finish text values = .ok st) : d.placeholders text = values.length ∧ st = ⟨text, values⟩ := by
  unfold finish at finished
  split at finished
  · rename_i count
    cases finished
    exact ⟨count, rfl⟩
  · cases finished

end Dialect

end SqlCompiler
