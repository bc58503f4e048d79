import SqlCompiler.Query.Building

namespace SqlCompiler

/-- The categories of clauses. Those of the query itself and those of its union are of the same category. -/
inductive Category
  | columns
  | distinct
  | source
  | indexHint
  | joins
  | wheres
  | groups
  | havings
  | orders
  | limit
  | offset
  | groupLimit
  | unions
  | lock
  | aggregate
deriving DecidableEq

namespace Category

def Content : Category → Type
  | .columns => List Selection
  | .distinct => Distinct
  | .source => Option Source
  | .indexHint => Option IndexHint
  | .joins => List Join
  | .wheres | .havings => Clause
  | .groups => List Grouping
  | .orders => List Order × List Order
  | .limit | .offset => Option UInt64 × Option UInt64
  | .groupLimit => Option GroupLimit
  | .unions => List Union
  | .lock => Option Lock
  | .aggregate => Option Aggregate

def paged : List Category := [.orders, .limit, .offset]

/-- Steps of the categories do not change places. -/
def Meets (c c' : Category) : Prop := c = c' ∨ c ∈ paged ∧ c' = .unions ∨ c = .unions ∧ c' ∈ paged

instance (c c' : Category) : Decidable (c.Meets c') :=
  inferInstanceAs (Decidable (c = c' ∨ c ∈ paged ∧ c' = .unions ∨ c = .unions ∧ c' ∈ paged))

theorem Meets.refl (c : Category) : c.Meets c := .inl rfl

theorem Meets.symm {c c' : Category} (meets : c.Meets c') : c'.Meets c := by
  rcases meets with rfl | ⟨paged, rfl⟩ | ⟨rfl, paged⟩
  · exact .inl rfl
  · exact .inr (.inr ⟨rfl, paged⟩)
  · exact .inr (.inl ⟨paged, rfl⟩)

/-- The categories that decide what a step leaves in one. -/
def reads (c : Category) : List Category := if c ∈ paged then [c, .unions] else [c]

theorem mem_reads {c c' : Category} : c' ∈ c.reads ↔ c' = c ∨ c ∈ paged ∧ c' = .unions := by
  unfold reads
  split <;> simp_all

theorem self_mem_reads (c : Category) : c ∈ c.reads := mem_reads.mpr (.inl rfl)

theorem meets_of_reads {c c' : Category} (read : c' ∈ c.reads) : c.Meets c' := by
  rcases mem_reads.mp read with rfl | united
  · exact .refl _
  · exact .inr (.inl united)

theorem reads_trans {c c' c'' : Category} (read : c' ∈ c.reads) (read' : c'' ∈ c'.reads) : c'' ∈ c.reads := by
  rcases mem_reads.mp read with rfl | ⟨-, rfl⟩
  · exact read'
  · rcases mem_reads.mp read' with rfl | ⟨paged, -⟩
    · exact read
    · exact absurd paged (by decide)

end Category

namespace Query

def content (q : Query) : (c : Category) → c.Content
  | .columns => q.columns
  | .distinct => q.distinct
  | .source => q.source
  | .indexHint => q.indexHint
  | .joins => q.joins
  | .wheres => q.wheres
  | .groups => q.groups
  | .havings => q.havings
  | .orders => (q.orders, q.unionOrders)
  | .limit => (q.limit, q.unionLimit)
  | .offset => (q.offset, q.unionOffset)
  | .groupLimit => q.groupLimit
  | .unions => q.unions
  | .lock => q.lock
  | .aggregate => q.aggregate

def revise (q : Query) : (c : Category) → (c.Content → c.Content) → Query
  | .columns, f => { q with columns := f q.columns }
  | .distinct, f => { q with distinct := f q.distinct }
  | .source, f => { q with source := f q.source }
  | .indexHint, f => { q with indexHint := f q.indexHint }
  | .joins, f => { q with joins := f q.joins }
  | .wheres, f => { q with wheres := f q.wheres }
  | .groups, f => { q with groups := f q.groups }
  | .havings, f => { q with havings := f q.havings }
  | .orders, f =>
    { q with orders := (f (q.orders, q.unionOrders)).1, unionOrders := (f (q.orders, q.unionOrders)).2 }
  | .limit, f => { q with limit := (f (q.limit, q.unionLimit)).1, unionLimit := (f (q.limit, q.unionLimit)).2 }
  | .offset, f => { q with offset := (f (q.offset, q.unionOffset)).1, unionOffset := (f (q.offset, q.unionOffset)).2 }
  | .groupLimit, f => { q with groupLimit := f q.groupLimit }
  | .unions, f => { q with unions := f q.unions }
  | .lock, f => { q with lock := f q.lock }
  | .aggregate, f => { q with aggregate := f q.aggregate }

variable {q r : Query} {c c' : Category}

theorem content_revise (q : Query) (c : Category) (f : c.Content → c.Content) :
    (q.revise c f).content c = f (q.content c) := by cases c <;> rfl

theorem content_revise_of_ne (other : c' ≠ c) (q : Query) (f : c.Content → c.Content) :
    (q.revise c f).content c' = q.content c' := by
  cases c <;> cases c' <;> first | rfl | exact absurd rfl other

theorem ext_content (same : ∀ c, q.content c = r.content c) : q = r := by
  obtain ⟨orders, unionOrders⟩ := Prod.mk.inj (same .orders)
  obtain ⟨limit, unionLimit⟩ := Prod.mk.inj (same .limit)
  obtain ⟨offset, unionOffset⟩ := Prod.mk.inj (same .offset)
  have columns : q.columns = r.columns := same .columns
  have distinct : q.distinct = r.distinct := same .distinct
  have source : q.source = r.source := same .source
  have indexHint : q.indexHint = r.indexHint := same .indexHint
  have joins : q.joins = r.joins := same .joins
  have wheres : q.wheres = r.wheres := same .wheres
  have groups : q.groups = r.groups := same .groups
  have havings : q.havings = r.havings := same .havings
  have groupLimit : q.groupLimit = r.groupLimit := same .groupLimit
  have unions : q.unions = r.unions := same .unions
  have lock : q.lock = r.lock := same .lock
  have aggregate : q.aggregate = r.aggregate := same .aggregate
  cases q
  cases r
  simp_all

end Query

/-- The function changes the categories and no other, and looks at no more than decides about each. -/
structure Changes (cs : List Category) (f : Query → Query) : Prop where
  frame : ∀ {c}, c ∉ cs → ∀ q : Query, (f q).content c = q.content c
  congr : ∀ {q r : Query} {c : Category}, (∀ c' ∈ c.reads, q.content c' = r.content c') →
    (f q).content c = (f r).content c

namespace Changes

variable {cs cs' : List Category} {f g : Query → Query}

theorem revise {c : Category} {change : Query → c.Content → c.Content}
    (reads : ∀ {q r : Query}, (∀ c' ∈ c.reads, q.content c' = r.content c') → change q = change r) :
    Changes [c] fun q => q.revise c (change q) where
  frame other q := Query.content_revise_of_ne (fun same => other (List.mem_singleton.mpr same)) q _
  congr {q r c'} same := by
    by_cases own : c' = c
    · subst own
      rw [Query.content_revise, Query.content_revise, reads same, same c' c'.self_mem_reads]
    · rw [Query.content_revise_of_ne own, Query.content_revise_of_ne own, same c' c'.self_mem_reads]

theorem always {c : Category} (change : c.Content → c.Content) : Changes [c] (·.revise c change) :=
  revise fun _ => rfl

theorem withUnions {c : Category} (paged : c ∈ Category.paged) (change : Bool → c.Content → c.Content) :
    Changes [c] fun q => q.revise c (change q.hasUnions) :=
  revise fun {q r} same => by
    have unions : q.unions = r.unions := same .unions (by simp [Category.reads, paged])
    rw [Query.hasUnions, Query.hasUnions, unions]

theorem comp (later : Changes cs' g) (first : Changes cs f) : Changes (cs ++ cs') (g ∘ f) where
  frame other q := by
    rw [List.mem_append, not_or] at other
    exact (later.frame other.2 (f q)).trans (first.frame other.1 q)
  congr same := later.congr fun _ read => first.congr fun c' read' => same c' (Category.reads_trans read read')

theorem commute (first : Changes cs f) (second : Changes cs' g) (apart : ∀ c ∈ cs, ∀ c' ∈ cs', ¬ c.Meets c')
    (q : Query) : f (g q) = g (f q) := by
  refine Query.ext_content fun c => ?_
  by_cases changed : c ∈ cs
  · have kept : ∀ c' ∈ c.reads, c' ∉ cs' := fun c' read member =>
      apart c changed c' member (Category.meets_of_reads read)
    rw [first.congr fun c' read => second.frame (kept c' read) q, second.frame (kept c c.self_mem_reads)]
  · rw [first.frame changed]
    by_cases changed' : c ∈ cs'
    · have kept : ∀ c' ∈ c.reads, c' ∉ cs := fun c' read member =>
        apart c' member c changed' (Category.meets_of_reads read).symm
      exact (second.congr fun c' read => first.frame (kept c' read) q).symm
    · rw [second.frame changed', second.frame changed', first.frame changed]

end Changes

/-- A step of building a query. The many steps that add a condition differ in that condition alone, but for those whose
condition may not be writable. -/
inductive Step
  | from_ (source : Source)
  | select (columns : List String)
  | addSelect (columns : List Selection)
  | distinct (d : Distinct)
  | indexHint (kind : HintKind) (indexes : String)
  | join (j : Join)
  | where_ (condition : Condition) (conjunction : Conjunction) (negated : Bool)
  | whereDatePart (column : String) (part : DatePart) (op : Operator) (value : Operand) (conjunction : Conjunction)
  | whereIn (column : String) (values : List Operand) (conjunction : Conjunction) (negated : Bool)
  | whereRow (columns : List String) (op : Operator) (values : List Operand)
  | whereClause (clause : Clause) (conjunction : Conjunction) (negated : Bool)
  | groupBy (groups : List Grouping)
  | having (condition : Condition) (conjunction : Conjunction)
  | havingClause (clause : Clause)
  | orderBy (order : Order)
  | reorder
  | limit (n : UInt64)
  | offset (n : UInt64)
  | forPage (page perPage : UInt64)
  | groupLimit (count : UInt64) (column : String)
  | union (member : Query) (all : Bool)
  | lock (l : Lock)
  | aggregate (function : AggregateFunction) (columns : List String)

namespace Step

def categories : Step → List Category
  | .from_ _ => [.source]
  | .select _ | .addSelect _ => [.columns]
  | .distinct _ => [.distinct]
  | .indexHint .. => [.indexHint]
  | .join _ => [.joins]
  | .where_ .. | .whereDatePart .. | .whereIn .. | .whereRow .. | .whereClause .. => [.wheres]
  | .groupBy _ => [.groups]
  | .having .. | .havingClause _ => [.havings]
  | .orderBy _ | .reorder => [.orders]
  | .limit _ => [.limit]
  | .offset _ => [.offset]
  | .forPage .. => [.offset, .limit]
  | .groupLimit .. => [.groupLimit]
  | .union .. => [.unions]
  | .lock _ => [.lock]
  | .aggregate .. => [.aggregate]

/-- What a step makes of a query. A condition that cannot be written is an error before the query is looked at. -/
def update : Step → Except Error (Query → Query)
  | .from_ source => .ok (·.from_ source)
  | .select columns => .ok (·.select columns)
  | .addSelect columns => .ok (·.addSelect columns)
  | .distinct d => .ok (·.withDistinct d)
  | .indexHint kind indexes => .ok (·.withIndexHint kind indexes)
  | .join j => .ok (·.join j)
  | .where_ condition conjunction negated => .ok (·.where_ condition conjunction negated)
  | .whereDatePart column part op value conjunction => do
    let condition ← Condition.ofDatePart column part op value
    return (·.where_ condition conjunction false)
  | .whereIn column values conjunction negated => do
    let condition ← Condition.ofList column values negated
    return (·.where_ condition conjunction false)
  | .whereRow columns op values => do
    let condition ← Condition.ofRow columns op values
    return (·.where_ condition .and false)
  | .whereClause clause conjunction negated => .ok (·.whereClause clause conjunction negated)
  | .groupBy groups => .ok (·.groupBy groups)
  | .having condition conjunction => .ok (·.having condition conjunction)
  | .havingClause clause => .ok (·.havingClause clause)
  | .orderBy order => .ok (·.orderBy order)
  | .reorder => .ok (·.reorder)
  | .limit n => .ok (·.withLimit n)
  | .offset n => .ok (·.withOffset n)
  | .forPage page perPage => .ok (·.forPage page perPage)
  | .groupLimit count column => .ok (·.withGroupLimit count column)
  | .union member all => .ok (·.union member all)
  | .lock l => .ok (·.withLock l)
  | .aggregate function columns => .ok (·.withAggregate function columns)

def apply (s : Step) (q : Query) : Except Error Query := do return (← s.update) q

theorem where_changes (condition : Condition) (conjunction : Conjunction) (negated : Bool) :
    Changes [.wheres] (·.where_ condition conjunction negated) :=
  .always (c := .wheres) fun clause => clause.add condition conjunction negated

def place {α : Type} (change : α → α) (united : Bool) (own : α × α) : α × α :=
  if united then (own.1, change own.2) else (change own.1, own.2)

theorem orderBy_changes (order : Order) : Changes [.orders] (·.orderBy order) := by
  have revised (q : Query) : q.orderBy order = q.revise .orders (place (· ++ [order]) q.hasUnions) := by
    unfold Query.orderBy
    cases q.hasUnions <;> rfl
  simp only [revised]
  exact .withUnions (c := .orders) (by decide) (place (· ++ [order]))

theorem withLimit_changes (n : UInt64) : Changes [.limit] (·.withLimit n) := by
  have revised (q : Query) : q.withLimit n = q.revise .limit (place (fun _ => some n) q.hasUnions) := by
    unfold Query.withLimit
    cases q.hasUnions <;> rfl
  simp only [revised]
  exact .withUnions (c := .limit) (by decide) (place fun _ => some n)

theorem withOffset_changes (n : UInt64) : Changes [.offset] (·.withOffset n) := by
  have revised (q : Query) : q.withOffset n = q.revise .offset (place (fun _ => some n) q.hasUnions) := by
    unfold Query.withOffset
    cases q.hasUnions <;> rfl
  simp only [revised]
  exact .withUnions (c := .offset) (by decide) (place fun _ => some n)

theorem update_changes {s : Step} {f : Query → Query} (found : s.update = .ok f) : Changes s.categories f := by
  cases s with
  | whereDatePart | whereIn | whereRow =>
    rw [update] at found
    obtain ⟨condition, -, made⟩ := ok_of_bind found
    cases made
    exact where_changes condition _ false
  | where_ condition conjunction negated => cases found; exact where_changes condition conjunction negated
  | orderBy order => cases found; exact orderBy_changes order
  | limit n => cases found; exact withLimit_changes n
  | offset n => cases found; exact withOffset_changes n
  | forPage page perPage => cases found; exact (withLimit_changes perPage).comp (withOffset_changes _)
  | from_ source => cases found; exact .always (c := .source) fun _ => some source
  | select columns => cases found; exact .always (c := .columns) fun _ => columns.map .column
  | addSelect columns => cases found; exact .always (c := .columns) fun own => List.append own columns
  | distinct d => cases found; exact .always (c := .distinct) fun _ => d
  | indexHint kind indexes => cases found; exact .always (c := .indexHint) fun _ => some ⟨kind, indexes⟩
  | join j => cases found; exact .always (c := .joins) fun own => List.append own [j]
  | whereClause clause conjunction negated =>
    cases found
    exact .always (c := .wheres) fun own => Clause.addClause own clause conjunction negated
  | groupBy groups => cases found; exact .always (c := .groups) fun own => List.append own groups
  | having condition conjunction =>
    cases found
    exact .always (c := .havings) fun own => Clause.add own condition conjunction false
  | havingClause clause => cases found; exact .always (c := .havings) fun own => Clause.addClause own clause .and false
  | reorder => cases found; exact .always (c := .orders) fun _ => ([], [])
  | groupLimit count column => cases found; exact .always (c := .groupLimit) fun _ => some ⟨count, column⟩
  | union member all => cases found; exact .always (c := .unions) fun own => List.append own [⟨member, all⟩]
  | lock l => cases found; exact .always (c := .lock) fun _ => some l
  | aggregate function columns => cases found; exact .always (c := .aggregate) fun _ => some ⟨function, columns⟩

def Apart (s s' : Step) : Prop := ∀ c ∈ s.categories, ∀ c' ∈ s'.categories, ¬ c.Meets c'

theorem Apart.symm {s s' : Step} (apart : s.Apart s') : s'.Apart s :=
  fun c member c' member' meets => apart c' member' c member meets.symm

theorem apply_ok_iff {s : Step} {q r : Query} : s.apply q = .ok r ↔ ∃ f, s.update = .ok f ∧ f q = r := by
  unfold apply
  cases s.update <;> simp [bind, Except.bind, pure, Except.pure]

theorem apply_commute {s s' : Step} (apart : s.Apart s') {q a b : Query} (first : s.apply q = .ok a)
    (second : s'.apply q = .ok b) : ∃ r, s'.apply a = .ok r ∧ s.apply b = .ok r := by
  obtain ⟨f, found, rfl⟩ := apply_ok_iff.mp first
  obtain ⟨g, found', rfl⟩ := apply_ok_iff.mp second
  have same := (update_changes found).commute (update_changes found') apart q
  exact ⟨g (f q), apply_ok_iff.mpr ⟨g, found', rfl⟩, apply_ok_iff.mpr ⟨f, found, same⟩⟩

end Step

end SqlCompiler
