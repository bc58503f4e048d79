import Mathlib.Algebra.GroupWithZero.Nat
import Mathlib.Data.List.DropRight
import Mathlib.Data.List.Nodup
import Mathlib.Data.Prod.Basic
import SqlCompiler.Query.Bindings

namespace SqlCompiler

namespace Bucket

def index (bucket : Bucket) : Nat := bucket.ctorIdx

theorem usualOrder_index (bucket : Bucket) : usualOrder[bucket.index]? = some bucket := by cases bucket <;> rfl

theorem usualOrder_nodup : usualOrder.Nodup := by decide

end Bucket

namespace Bindings

/-- What is done to the buckets. -/
inductive Action
  | extend (bucket : Bucket) (values : List Value)
  | take (bucket : Bucket)

variable {b : Bindings} {bucket : Bucket}

namespace Action

/-- What an action hands back, and the buckets behind it. -/
def perform (b : Bindings) : Action → List Value × Bindings
  | .extend bucket values => ([], b.extend bucket values)
  | .take bucket => b.take bucket

def puts (bucket : Bucket) : Action → List Value
  | .extend other values => if other = bucket then values else []
  | .take _ => []

def takes (bucket : Bucket) : Action → Bool
  | .extend _ _ => false
  | .take other => other = bucket

def handsBack (bucket : Bucket) (b : Bindings) (a : Action) : List Value :=
  if a.takes bucket then (a.perform b).1 else []

theorem puts_of_takes {a : Action} (takes : a.takes bucket) : a.puts bucket = [] := by
  cases a with
  | extend => exact absurd takes (by simp [Action.takes])
  | take => rfl

theorem held_perform (b : Bindings) (a : Action) (bucket : Bucket) :
    (a.perform b).2.held bucket = (if a.takes bucket then [] else b.held bucket) ++ a.puts bucket := by
  cases a with
  | extend other values =>
    by_cases same : bucket = other
    · simp [perform, Bindings.extend, puts, takes, same]
    · simp [perform, Bindings.extend, puts, takes, same, Ne.symm same]
  | take other =>
    by_cases same : bucket = other
    · simp [perform, Bindings.take, clear, puts, takes, same]
    · simp [perform, Bindings.take, clear, puts, takes, same, Ne.symm same]

/-- No value is lost and none is added: what an action hands back and what it leaves are what the bucket held and what
the action puts there. -/
theorem handsBack_append_held (b : Bindings) (a : Action) (bucket : Bucket) :
    a.handsBack bucket b ++ (a.perform b).2.held bucket = b.held bucket ++ a.puts bucket := by
  rw [held_perform, handsBack]
  cases a with
  | extend => rfl
  | take other =>
    by_cases same : other = bucket
    · simp [perform, Bindings.take, takes, puts, same]
    · simp [takes, puts, same]

end Action

def run (b : Bindings) (actions : List Action) : Bindings := actions.foldl (fun b a => (a.perform b).2) b

def handedBack (bucket : Bucket) (b : Bindings) : List Action → List Value
  | [] => []
  | a :: rest => a.handsBack bucket b ++ handedBack bucket (a.perform b).2 rest

/-- What is put into a bucket behind the last action that takes it. -/
def putSinceTaken (bucket : Bucket) (actions : List Action) : List Value :=
  (actions.rtakeWhile fun a => !a.takes bucket).flatMap (Action.puts bucket)

theorem run_concat (b : Bindings) (actions : List Action) (a : Action) :
    b.run (actions ++ [a]) = (a.perform (b.run actions)).2 := by
  rw [run, List.foldl_append]
  rfl

theorem putSinceTaken_concat (bucket : Bucket) (actions : List Action) (a : Action) :
    putSinceTaken bucket (actions ++ [a]) =
      (if a.takes bucket then [] else putSinceTaken bucket actions) ++ a.puts bucket := by
  rw [putSinceTaken, List.rtakeWhile_concat]
  by_cases takes : a.takes bucket
  · simp [takes, Action.puts_of_takes takes]
  · simp [takes, putSinceTaken]

theorem held_run (empty : b.held bucket = []) (actions : List Action) :
    (b.run actions).held bucket = putSinceTaken bucket actions := by
  -- From the end, as it is the last action that decides whether what was put in before it still counts.
  induction actions using List.reverseRecOn with
  | nil => exact empty
  | append_singleton actions a ih => rw [run_concat, Action.held_perform, putSinceTaken_concat, ih]

theorem held_run_extends (parts : List (Bucket × List Value)) (bucket : Bucket) :
    (empty.run (parts.map fun part => .extend part.1 part.2)).held bucket =
      parts.flatMap fun part => if part.1 = bucket then part.2 else [] := by
  rw [held_run rfl, putSinceTaken, List.rtakeWhile_eq_self_iff.mpr, List.flatMap_map]
  · rfl
  · rintro a member
    obtain ⟨part, -, rfl⟩ := List.mem_map.mp member
    rfl

theorem handedBack_append_held (b : Bindings) (bucket : Bucket) (actions : List Action) :
    handedBack bucket b actions ++ (b.run actions).held bucket =
      b.held bucket ++ actions.flatMap (Action.puts bucket) := by
  induction actions generalizing b with
  | nil => simp [handedBack, run]
  | cons a rest ih =>
    calc a.handsBack bucket b ++ handedBack bucket (a.perform b).2 rest ++ ((a.perform b).2.run rest).held bucket
        = a.handsBack bucket b ++ ((a.perform b).2.held bucket ++ rest.flatMap (Action.puts bucket)) := by
          rw [List.append_assoc, ih]
      _ = b.held bucket ++ (a :: rest).flatMap (Action.puts bucket) := by
          rw [← List.append_assoc, Action.handsBack_append_held, List.append_assoc, List.flatMap_cons]

def slots (b : Bindings) : List (List Value) := Bucket.usualOrder.map b.held

def Action.store (slots : List (List Value)) : Action → List (List Value)
  | .extend bucket values => slots.modify bucket.index (· ++ values)
  | .take bucket => slots.set bucket.index []

theorem slots_index (b : Bindings) (bucket : Bucket) : b.slots[bucket.index]? = some (b.held bucket) := by
  rw [slots, List.getElem?_map, Bucket.usualOrder_index, Option.map_some]

theorem slots_perform (b : Bindings) (a : Action) : (a.perform b).2.slots = a.store b.slots := by
  cases a with
  | extend bucket values => cases bucket <;> rfl
  | take bucket => cases bucket <;> rfl

theorem slots_run (b : Bindings) (actions : List Action) :
    (b.run actions).slots = actions.foldl Action.store b.slots := by
  induction actions generalizing b with
  | nil => rfl
  | cons a rest ih => exact (ih (a.perform b).2).trans (congrArg (rest.foldl Action.store) (slots_perform b a))

/-- The values of a bucket, each with its place: the bucket and its position there. -/
def entries (b : Bindings) (bucket : Bucket) : List ((Bucket × Nat) × Value) :=
  (b.held bucket).zipIdx.map fun (value, i) => ((bucket, i), value)

def located (b : Bindings) (order : List Bucket) : List ((Bucket × Nat) × Value) := order.flatMap b.entries

variable {order : List Bucket}

theorem entries_values (b : Bindings) (bucket : Bucket) : (b.entries bucket).map Prod.snd = b.held bucket := by
  rw [entries, List.map_map]
  exact List.zipIdx_map_fst 0 (b.held bucket)

theorem entries_places (b : Bindings) (bucket : Bucket) :
    (b.entries bucket).map Prod.fst = (List.range (b.held bucket).length).map (bucket, ·) := by
  rw [entries, List.map_map, List.range_eq_range', ← List.zipIdx_map_snd 0 (b.held bucket), List.map_map]
  rfl

theorem mem_entries {place : Bucket × Nat} {value : Value} :
    (place, value) ∈ b.entries bucket ↔ place.1 = bucket ∧ (b.held bucket)[place.2]? = some value := by
  simp only [entries, List.mem_map, Prod.mk.injEq, Prod.exists, List.mk_mem_zipIdx_iff_getElem?]
  constructor
  · rintro ⟨_, i, held, rfl, rfl⟩
    exact ⟨rfl, held⟩
  · rintro ⟨rfl, held⟩
    exact ⟨value, place.2, held, rfl, rfl⟩

theorem located_values (b : Bindings) (order : List Bucket) : (b.located order).map Prod.snd = b.flatten order := by
  simp only [located, flatten, List.map_flatMap, entries_values]

theorem mem_located {place : Bucket × Nat} {value : Value} :
    (place, value) ∈ b.located order ↔ place.1 ∈ order ∧ (b.held place.1)[place.2]? = some value := by
  simp only [located, List.mem_flatMap, mem_entries]
  constructor
  · rintro ⟨bucket, member, rfl, held⟩
    exact ⟨member, held⟩
  · rintro ⟨member, held⟩
    exact ⟨place.1, member, rfl, held⟩

theorem places_nodup (b : Bindings) (once : order.Nodup) : ((b.located order).map Prod.fst).Nodup := by
  rw [located, List.map_flatMap, List.nodup_flatMap]
  simp only [entries_places]
  refine ⟨fun bucket _ => List.nodup_range.map (Prod.mk_right_injective bucket), ?_⟩
  refine once.imp fun {first second} other place member member' => ?_
  obtain ⟨_, -, rfl⟩ := List.mem_map.mp member
  obtain ⟨_, -, same⟩ := List.mem_map.mp member'
  exact other (congrArg Prod.fst same).symm

theorem located_filter (b : Bindings) (order : List Bucket) (keep : Bucket → Bool) :
    (b.located order).filter (fun entry => keep entry.1.1) = b.located (order.filter keep) := by
  have bucketOf {bucket : Bucket} : ∀ entry ∈ b.entries bucket, entry.1.1 = bucket :=
    fun _ member => (mem_entries.mp member).1
  induction order with
  | nil => rfl
  | cons bucket rest ih =>
    simp only [located, List.flatMap_cons, List.filter_append, List.filter_cons] at ih ⊢
    rw [ih]
    -- The values of one bucket are kept together or go together.
    by_cases kept : keep bucket
    · rw [if_pos kept, List.flatMap_cons, List.filter_eq_self.mpr]
      exact fun entry member => (bucketOf entry member).symm ▸ kept
    · rw [if_neg kept, List.filter_eq_nil_iff.mpr, List.nil_append]
      exact fun entry member => (bucketOf entry member).symm ▸ kept

/-- The list of the buckets in the order has each value that is held, and has it once. -/
structure ListsAll (b : Bindings) (order : List Bucket) : Prop where
  values : (b.located order).map Prod.snd = b.flatten order
  once : ((b.located order).map Prod.fst).Nodup
  all : ∀ place value, (place, value) ∈ b.located order ↔ (b.held place.1)[place.2]? = some value

theorem listsAll_of_perm (b : Bindings) (all : order.Perm Bucket.usualOrder) : b.ListsAll order where
  values := b.located_values order
  once := b.places_nodup (all.nodup_iff.mpr Bucket.usualOrder_nodup)
  all _ _ := mem_located.trans (and_iff_right (all.mem_iff.mpr (Bucket.mem_usualOrder _)))

theorem length_flatten_of_perm (b : Bindings) (all : order.Perm Bucket.usualOrder) :
    (b.flatten order).length = (b.slots.map List.length).sum := by
  rw [flatten, List.length_flatMap, slots, List.map_map]
  exact (all.map _).sum_nat

theorem flattenExcept_eq_filter (b : Bindings) (skip : List Bucket) :
    b.flattenExcept skip = ((b.located Bucket.usualOrder).filter fun entry => entry.1.1 ∉ skip).map Prod.snd := by
  have kept : (fun bucket => !skip.contains bucket) = fun bucket => decide (bucket ∉ skip) := by
    funext bucket
    simp
  rw [located_filter b Bucket.usualOrder fun bucket => decide (bucket ∉ skip), located_values, flattenExcept, kept]

end Bindings

namespace Query

def clauseValues (numbersRows : Bool) (q : Query) : List (Bucket × List Value) :=
  [(.select, selectionBindings numbersRows q.columns), (.from, sourceBindings numbersRows q.source)] ++
  q.joins.map (fun j => (.join, joinBindings numbersRows [j])) ++
  [(.where, clauseBindings numbersRows q.wheres), (.groupBy, q.groups.flatMap Grouping.bindings),
    (.having, clauseBindings numbersRows q.havings), (.order, q.orders.flatMap Order.bindings)] ++
  q.unions.map (fun u => (.union, unionBindings numbersRows [u])) ++
  [(.unionOrder, q.unionOrders.flatMap Order.bindings)]

theorem flatMap_joinBindings (numbersRows : Bool) (joins : List Join) :
    joins.flatMap (fun j => joinBindings numbersRows [j]) = joinBindings numbersRows joins := by
  induction joins with
  | nil => rfl
  | cons j rest ih =>
    cases j
    simp [joinBindings, ih]

theorem flatMap_unionBindings (numbersRows : Bool) (unions : List Union) :
    unions.flatMap (fun u => unionBindings numbersRows [u]) = unionBindings numbersRows unions := by
  induction unions with
  | nil => rfl
  | cons u rest ih =>
    cases u
    simp [unionBindings, ih]

theorem buckets_eq_run (numbersRows : Bool) (q : Query) : q.buckets numbersRows =
    Bindings.empty.run ((q.clauseValues numbersRows).map fun part => .extend part.1 part.2) := by
  have nothing {α : Type} (clauses : List α) : clauses.flatMap (fun _ => ([] : List Value)) = [] :=
    List.flatMap_eq_nil_iff.mpr fun _ _ => rfl
  have same (bucket : Bucket) : (q.buckets numbersRows).held bucket =
      (Bindings.empty.run ((q.clauseValues numbersRows).map fun part => .extend part.1 part.2)).held bucket := by
    rw [Bindings.held_run_extends]
    cases q
    cases bucket <;>
      simp [buckets, clauseValues, List.flatMap_map, flatMap_joinBindings, flatMap_unionBindings, nothing]
  exact congrArg Bindings.mk (funext same)

end Query

namespace Bindings

/-- The buckets conserve values, in whatever order they are put in and taken out. A bucket holds what was put into it
since it was last taken, also where the buckets lie side by side and go by their numbers. Both orders list each value
that is held once, and a list without some buckets lacks their values alone. What a query binds is put into its buckets
in the same way. -/
theorem values_conserved :
    (∀ (actions : List Action) (bucket : Bucket),
      (empty.run actions).held bucket = putSinceTaken bucket actions ∧
      handedBack bucket empty actions ++ (empty.run actions).held bucket = actions.flatMap (Action.puts bucket) ∧
      (actions.foldl Action.store (List.replicate 9 []))[bucket.index]? = some ((empty.run actions).held bucket)) ∧
    (∀ b : Bindings,
      b.ListsAll Bucket.usualOrder ∧ b.ListsAll Bucket.numberedOrder ∧
      (b.flatten Bucket.usualOrder).length = b.length ∧ (b.flatten Bucket.numberedOrder).length = b.length ∧
      b.length = (b.slots.map List.length).sum ∧
      ∀ skip, b.flattenExcept skip =
        ((b.located Bucket.usualOrder).filter fun entry => entry.1.1 ∉ skip).map Prod.snd) ∧
    ∀ (numbersRows : Bool) (q : Query), q.buckets numbersRows =
      empty.run ((q.clauseValues numbersRows).map fun part => .extend part.1 part.2) := by
  refine ⟨fun actions bucket => ⟨held_run rfl actions, handedBack_append_held empty bucket actions, ?_⟩,
    fun b => ?_, Query.buckets_eq_run⟩
  · have stored : (empty.run actions).slots = actions.foldl Action.store (List.replicate 9 []) :=
      slots_run empty actions
    rw [← stored, slots_index]
  · have usual := b.length_flatten_of_perm (List.Perm.refl Bucket.usualOrder)
    have numbered := b.length_flatten_of_perm Bucket.numberedOrder_perm
    exact ⟨b.listsAll_of_perm (.refl _), b.listsAll_of_perm Bucket.numberedOrder_perm, rfl,
      numbered.trans usual.symm, usual, b.flattenExcept_eq_filter⟩

example : (empty.run [.extend .where [.int 2], .extend .order [.int 3], .take .where, .extend .where [.int 4, .int 4],
    .extend .select [.int 1]]).flatten Bucket.numberedOrder = [.int 1, .int 3, .int 4, .int 4] := rfl

end Bindings

end SqlCompiler
