import SqlCompiler.Proofs.Placement.Writes

namespace SqlCompiler

/-- The query picks rows of a table by joins, conditions, order and limit alone. -/
structure Query.Picks (t : Target) (q : Query) : Prop where
  sound : q.Sound t
  table : ∃ name, q.source = some (.table name)
  groups : q.groups = []
  havings : q.havings = []
  groupLimit : q.groupLimit = none
  unions : q.unions = []
  unionOrders : q.unionOrders = []

namespace Query

section

variable (numbersRows : Bool) (q : Query)

theorem flattenExcept_select : (q.buckets numbersRows).flattenExcept [.select] =
    q.bodyValues numbersRows ++ q.orders.flatMap Order.bindings ++ unionBindings numbersRows q.unions ++
      q.unionOrders.flatMap Order.bindings := by
  cases q
  simp [Bindings.flattenExcept, Bindings.flatten, Bucket.usualOrder, Query.buckets, bodyValues]

theorem flattenExcept_select_order : (q.buckets numbersRows).flattenExcept [.select, .order] =
    q.bodyValues numbersRows ++ unionBindings numbersRows q.unions ++ q.unionOrders.flatMap Order.bindings := by
  cases q
  simp [Bindings.flattenExcept, Bindings.flatten, Bucket.usualOrder, Query.buckets, bodyValues]

def laterValues : List Value :=
  sourceBindings numbersRows q.source ++ clauseBindings numbersRows q.wheres ++ q.groups.flatMap Grouping.bindings ++
    clauseBindings numbersRows q.havings

theorem flattenExcept_select_join : (q.buckets numbersRows).flattenExcept [.select, .join] =
    q.laterValues numbersRows ++ q.orders.flatMap Order.bindings ++ unionBindings numbersRows q.unions ++
      q.unionOrders.flatMap Order.bindings := by
  cases q
  simp [Bindings.flattenExcept, Bindings.flatten, Bucket.usualOrder, Query.buckets, laterValues]

theorem flattenExcept_select_order_join : (q.buckets numbersRows).flattenExcept [.select, .order, .join] =
    q.laterValues numbersRows ++ unionBindings numbersRows q.unions ++ q.unionOrders.flatMap Order.bindings := by
  cases q
  simp [Bindings.flattenExcept, Bindings.flatten, Bucket.usualOrder, Query.buckets, laterValues]

theorem held_join : (q.buckets numbersRows).held .join = joinBindings numbersRows q.joins := by
  cases q
  rfl

end

def boundAfter (t : Target) (q : Query) : List Value :=
  let orders := q.orders.flatMap Order.bindings
  let members := unionBindings t.numbersRows q.unions ++ q.unionOrders.flatMap Order.bindings
  match t.dialect with
  | .mysql => q.laterValues t.numbersRows ++ (if q.joins.isEmpty then orders else []) ++ members
  | .sqlServer => q.bodyValues t.numbersRows ++ members
  | .postgres | .sqlite => q.bodyValues t.numbersRows ++ (if q.isPlainTarget then [] else orders) ++ members

theorem updateBindings_eq (t : Target) (q : Query) (r : Record) :
    q.updateBindings t r = q.valuesBefore t ++ t.assignedValues r ++ q.boundAfter t := by
  unfold updateBindings valuesBefore boundAfter unboundParts
  cases dialect : t.dialect
  case mysql =>
    simp only
    split <;> simp [held_join, flattenExcept_select_join, flattenExcept_select_order_join]
  case sqlServer => simp [flattenExcept_select_order]
  all_goals
    simp only
    split <;> simp [flattenExcept_select, flattenExcept_select_order]

theorem bodyValues_of_table (numbersRows : Bool) {q : Query} (table : ∃ name, q.source = some (.table name)) :
    q.bodyValues numbersRows = joinBindings numbersRows q.joins ++ q.laterValues numbersRows := by
  obtain ⟨name, found⟩ := table
  simp [bodyValues, laterValues, found, sourceBindings, Source.bindings]

theorem deleteBindings_eq {t : Target} {q : Query} (table : ∃ name, q.source = some (.table name)) :
    (q.buckets t.numbersRows).flattenExcept (q.unboundParts t) = q.valuesBefore t ++ q.boundAfter t := by
  unfold valuesBefore boundAfter unboundParts
  cases dialect : t.dialect
  case mysql =>
    simp only
    split <;> simp [bodyValues_of_table _ table, flattenExcept_select, flattenExcept_select_order]
  case sqlServer => simp [flattenExcept_select_order]
  all_goals
    simp only
    split <;> simp [flattenExcept_select, flattenExcept_select_order]

theorem Picks.laterValues_eq {t : Target} {q : Query} (picks : q.Picks t) :
    q.laterValues t.numbersRows = clauseBindings t.numbersRows q.wheres := by
  obtain ⟨name, found⟩ := picks.table
  simp [laterValues, found, sourceBindings, Source.bindings, picks.groups, picks.havings, clauseBindings]

theorem isPlainTarget_joins {q : Query} (plain : q.isPlainTarget) : q.joins = [] := by
  simpa using (Bool.and_eq_true_iff.mp plain).1

theorem rowValues_keys (numbersRows : Bool) (q : Query) :
    rowValues numbersRows { q with columns := [] } =
      if q.groupLimit.isNone then
        q.bodyValues numbersRows ++ q.orders.flatMap Order.bindings ++ unionBindings numbersRows q.unions ++
          q.unionOrders.flatMap Order.bindings
      else if numbersRows then q.orders.flatMap Order.bindings ++ q.bodyValues numbersRows
      else q.bodyValues numbersRows ++ q.orders.flatMap Order.bindings := by
  simp only [rowValues, selectionBindings, bodyValues, List.nil_append]

theorem Picks.boundAfter_eq {t : Target} {q : Query} (picks : q.Picks t) : q.boundAfter t = q.valuesAfter t := by
  have body := bodyValues_of_table t.numbersRows picks.table
  have later := picks.laterValues_eq
  have members : unionBindings t.numbersRows q.unions ++ q.unionOrders.flatMap Order.bindings = [] := by
    simp [picks.unions, picks.unionOrders, unionBindings]
  unfold boundAfter valuesAfter
  cases dialect : t.dialect
  case mysql =>
    simp only [later, members, List.append_nil]
    split <;> simp
  case sqlServer => simp only [body, later, members, List.append_nil]
  all_goals
    simp only [members, List.append_nil]
    split
    · rename_i plain
      simp [body, later, isPlainTarget_joins plain, joinBindings]
    · rw [rowValues_keys, if_pos (by simp [picks.groupLimit]), List.append_assoc (_ ++ _), members, List.append_nil]

/-- The statement is the text of an update, with its values where they were written for: the assignments come first,
but on MySQL the joins come before them. -/
def UpdateAligned (t : Target) (q : Query) (r : Record) (st : Statement) : Prop :=
  ∃ before after, q.updateSql t (t.recordAssignments r) = .ok (before ++ t.recordAssignments r ++ after) ∧
    st.Aligned t.dialect "" (before ++ t.recordAssignments r ++ after) "" ∧
    before.values = if t.dialect = .mysql then joinBindings t.numbersRows q.joins else []

def DeleteAligned (t : Target) (q : Query) (st : Statement) : Prop :=
  ∃ s, q.deleteSql t = .ok s ∧ st.Aligned t.dialect "" s ""

theorem valuesBefore_eq (t : Target) (q : Query) :
    q.valuesBefore t = if t.dialect = .mysql then joinBindings t.numbersRows q.joins else [] := by
  unfold valuesBefore
  cases t.dialect <;> rfl

section

variable {t : Target} (plainPrefix : PlainText t.tablePrefix) {q : Query} (picks : q.Picks t)
include plainPrefix picks

theorem update_aligned {r : Record} (sound : r.Sound t.dialect) :
    Compiles (q.UpdateAligned t r) (q.update t r) := by
  have none := Dialect.inert_empty t.dialect
  unfold update
  split
  · exact .error fun _ _ => Error.noConfusion
  · rw [updateBindings_eq, picks.boundAfter_eq]
    apply (updateSql_around plainPrefix picks.sound (fun _ => picks.unionOrders) (t.recordAssignments r)).bind_eq
    intro s compiled around
    have binds := around.binds (Target.recordAssignments_binds plainPrefix sound)
    obtain ⟨before, after, rfl, first, _⟩ := around
    refine Compiles.finish binds "" "" (by simp) none none fun st aligned => ⟨before, after, compiled, aligned, ?_⟩
    rw [first.values_eq, valuesBefore_eq]

theorem delete_aligned : Compiles (q.DeleteAligned t) (q.delete t) := by
  have none := Dialect.inert_empty t.dialect
  unfold delete
  rw [deleteBindings_eq picks.table, picks.boundAfter_eq]
  apply (deleteSql_binds plainPrefix picks.sound fun _ => picks.unionOrders).bind_eq
  intro s compiled binds
  exact Compiles.finish binds "" "" (by simp) none none fun st aligned => ⟨s, compiled, aligned⟩

/-- Updates and deletions are never refused for their count of values, and each placeholder belongs to the value in
its place. -/
theorem changes_aligned {r : Record} (sound : r.Sound t.dialect) :
    Compiles (q.UpdateAligned t r) (q.update t r) ∧ Compiles (q.DeleteAligned t) (q.delete t) :=
  ⟨update_aligned plainPrefix picks sound, delete_aligned plainPrefix picks⟩

end

def overdue : Query where
  columns := [.raw "coalesce(total, ?)" [.int 8]]
  source := some (.table "orders")
  joins := [⟨.inner, .table "customers", [⟨.compare "customers.level" .gt (.value (.int 1)), .and, false⟩]⟩]
  wheres := [⟨.compare "due" .lt (.value (.int 3)), .and, false⟩]
  orders := [.raw "due + ?" [.int 9]]
  limit := some 5

def closing : Record where
  entries := [("total", .value (.int 2)), ("note", .raw "upper(note)")]

theorem closing_sound : closing.Sound .mysql := by
  intro entry member
  have entries : entry = ("total", .value (.int 2)) ∨ entry = ("note", .raw "upper(note)") := by
    simpa [closing] using member
  rcases entries with rfl | rfl
  · exact ⟨PlainText.of_chars rfl, True.intro⟩
  · exact ⟨PlainText.of_chars rfl, Dialect.inert_chars rfl⟩

theorem overdue_picks : overdue.Picks { dialect := .mysql } := by
  have level : Condition.Sound { dialect := .mysql } (.compare "customers.level" .gt (.value (.int 1))) :=
    .compare (PlainText.of_chars rfl) True.intro
  have due : Condition.Sound { dialect := .mysql } (.compare "due" .lt (.value (.int 3))) :=
    .compare (PlainText.of_chars rfl) True.intro
  have customers : Join.Sound { dialect := .mysql } ⟨.inner, .table "customers",
      [⟨.compare "customers.level" .gt (.value (.int 1)), .and, false⟩]⟩ :=
    .intro (.table (PlainText.of_chars rfl)) (by simpa using Predicate.Sound.intro level)
      (by simp [JoinTarget.isLateral])
  have order : (Order.raw "due + ?" [.int 9]).Sound .mysql := Dialect.holds_scan rfl rfl
  refine ⟨?_, ⟨"orders", rfl⟩, rfl, rfl, rfl, rfl, rfl⟩
  unfold overdue
  constructor
  case columns => simpa using Selection.Sound.raw (Dialect.holds_scan rfl rfl)
  case source => simpa using Source.Sound.table (PlainText.of_chars rfl)
  case joins => simpa using customers
  case wheres => simpa using Predicate.Sound.intro due
  case orders => simpa using order
  case distinct => exact True.intro
  all_goals simp

/-- The join is written before the assignments, and neither the select list nor the order is written at all. -/
theorem overdue_changes_aligned :
    (∃ st, overdue.update { dialect := .mysql } closing = .ok st ∧ st.bindings = [.int 1, .int 2, .int 3] ∧
      overdue.UpdateAligned { dialect := .mysql } closing st) ∧
    ∃ st, overdue.delete { dialect := .mysql } = .ok st ∧ st.bindings = [.int 1, .int 3] ∧
      overdue.DeleteAligned { dialect := .mysql } st := by
  obtain ⟨updated, deleted⟩ :=
    changes_aligned (t := { dialect := .mysql }) (PlainText.of_chars rfl) overdue_picks closing_sound
  obtain ⟨s, changes⟩ : ∃ s, overdue.updateSql { dialect := .mysql }
      (Target.recordAssignments { dialect := .mysql } closing) = .ok s := ⟨_, rfl⟩
  obtain ⟨s', deletes⟩ : ∃ s, overdue.deleteSql { dialect := .mysql } = .ok s := ⟨_, rfl⟩
  refine ⟨?_, ?_⟩
  · rw [update, changes] at updated ⊢
    exact updated.finished
  · rw [delete, deletes] at deleted ⊢
    exact deleted.finished

end Query

end SqlCompiler
