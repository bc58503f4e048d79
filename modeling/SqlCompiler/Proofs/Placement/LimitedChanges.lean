import SqlCompiler.Proofs.Placement.Changes

namespace SqlCompiler

theorem Sql.Binds.finish_ok {d : Dialect} {values bound : List Value} {s : Sql} (binds : s.Binds d values)
    (count : bound.length = values.length) : d.finish s.text bound = .ok ⟨s.text, bound⟩ := by
  have holds := binds.sound.holds.count
  rw [binds.values_eq] at holds
  rw [Dialect.finish, if_pos (by omega)]

theorem Sql.Binds.aligned_iff {d : Dialect} {values bound : List Value} {s : Sql} {st : Statement}
    (binds : s.Binds d values) (finished : d.finish s.text bound = .ok st) :
    bound.length = values.length ∧ (st.Aligned d "" s "" ↔ bound = values) := by
  have count := binds.sound.holds.count
  have placed := binds.sound.placements
  rw [binds.values_eq] at count placed
  unfold Dialect.finish at finished
  split at finished
  · rename_i same
    cases finished
    refine ⟨by omega, ?_, ?_⟩
    · intro aligned
      exact aligned.bindings_eq.trans placed.2
    · rintro rfl
      exact ⟨by simp, placed.1.symm, placed.2.symm⟩
  · cases finished

namespace Query

/-- The rows to write are those whose keys another query picks. -/
def PicksKeys (t : Target) (q : Query) : Prop :=
  (t.dialect = .postgres ∨ t.dialect = .sqlite) ∧ q.isPlainTarget = false

/-- It makes no difference whether the values of the order stand before or after those of joins and conditions. -/
def OrderMoves (numbersRows : Bool) (q : Query) : Prop :=
  q.orders.flatMap Order.bindings ++ q.bodyValues numbersRows =
    q.bodyValues numbersRows ++ q.orders.flatMap Order.bindings

section

variable {t : Target} {q : Query} (table : ∃ name, q.source = some (.table name)) (limited : q.groupLimit.isSome)
include table

theorem laterValues_of_table (numbersRows : Bool) :
    q.laterValues numbersRows = clauseBindings numbersRows q.wheres ++
      (q.groups.flatMap Grouping.bindings ++ clauseBindings numbersRows q.havings) := by
  obtain ⟨name, found⟩ := table
  simp [laterValues, found, sourceBindings, Source.bindings]

include limited

theorem boundAfter_eq_iff (count : (q.boundAfter t).length = (q.valuesAfter t).length) :
    q.boundAfter t = q.valuesAfter t ↔ (q.PicksKeys t → q.OrderMoves t.numbersRows) := by
  have later := laterValues_of_table table t.numbersRows
  have body := bodyValues_of_table t.numbersRows table
  have keys : q.groupLimit.isNone = false := by simpa using limited
  unfold boundAfter valuesAfter PicksKeys OrderMoves at *
  simp only [rowValues_keys, keys, Bool.false_eq_true, if_false] at count ⊢
  generalize q.groups.flatMap Grouping.bindings ++ clauseBindings t.numbersRows q.havings = grouped at *
  generalize unionBindings t.numbersRows q.unions ++ q.unionOrders.flatMap Order.bindings = members at *
  generalize q.orders.flatMap Order.bindings = orders at *
  -- As many values are bound as written, so what the text leaves out binds none; what is left may differ in order only.
  cases dialect : t.dialect
  case mysql =>
    simp only [dialect, later] at count ⊢
    have none : grouped = [] ∧ members = [] := by
      split at count <;> simp only [List.length_append, List.length_nil] at count
      all_goals exact ⟨List.eq_nil_of_length_eq_zero (by omega), List.eq_nil_of_length_eq_zero (by omega)⟩
    split <;> simp [none]
  case sqlServer =>
    simp only [dialect, body, later, List.length_append] at count ⊢
    have none : grouped = [] ∧ members = [] :=
      ⟨List.eq_nil_of_length_eq_zero (by omega), List.eq_nil_of_length_eq_zero (by omega)⟩
    simp [none]
  all_goals
    have numbers : t.numbersRows = true := by simp [Target.numbersRows, dialect]
    cases plain : q.isPlainTarget with
    | true =>
      simp only [dialect, body, later, isPlainTarget_joins plain, plain, joinBindings, if_true, List.length_append,
        List.length_nil] at count ⊢
      have none : grouped = [] ∧ members = [] :=
        ⟨List.eq_nil_of_length_eq_zero (by omega), List.eq_nil_of_length_eq_zero (by omega)⟩
      simp [none]
    | false =>
      simp only [dialect, numbers, plain, Bool.false_eq_true, if_false, if_true, List.length_append] at count ⊢
      have none : members = [] := List.eq_nil_of_length_eq_zero (by omega)
      simp [none, eq_comm]

variable (plainPrefix : PlainText t.tablePrefix) (sound : q.Sound t) (ordered : q.unions = [] → q.unionOrders = [])
include plainPrefix sound ordered

theorem limitedUpdate_aligned_iff {r : Record} (record : r.Sound t.dialect) {st : Statement}
    (compiled : q.update t r = .ok st) :
    q.UpdateAligned t r st ↔ (q.PicksKeys t → q.OrderMoves t.numbersRows) := by
  have written := updateSql_around plainPrefix sound ordered (t.recordAssignments r)
  unfold update at compiled
  split at compiled
  · cases compiled
  · generalize text : q.updateSql t (t.recordAssignments r) = result at written compiled
    cases written with
    | error _ => cases compiled
    | ok around =>
      rename_i s
      have binds := around.binds (Target.recordAssignments_binds plainPrefix record)
      have ⟨count, aligned⟩ := binds.aligned_iff compiled
      rw [updateBindings_eq] at count aligned
      rw [← boundAfter_eq_iff table limited (by simpa using count)]
      rw [List.append_cancel_left_eq] at aligned
      refine ⟨?_, ?_⟩
      · rintro ⟨before, after, same, holds, _⟩
        have whole : s = before ++ t.recordAssignments r ++ after := by
          rw [text] at same
          exact Except.ok.inj same
        exact aligned.mp (whole ▸ holds)
      · intro same
        have holds := aligned.mpr same
        obtain ⟨before, after, rfl, first, _⟩ := around
        exact ⟨before, after, text, holds, by rw [first.values_eq, valuesBefore_eq]⟩

theorem limitedDelete_aligned_iff {st : Statement} (compiled : q.delete t = .ok st) :
    q.DeleteAligned t st ↔ (q.PicksKeys t → q.OrderMoves t.numbersRows) := by
  have written := deleteSql_binds plainPrefix sound ordered
  unfold delete at compiled
  generalize text : q.deleteSql t = result at written compiled
  cases written with
  | error _ => cases compiled
  | ok binds =>
    rename_i s
    have ⟨count, aligned⟩ := binds.aligned_iff compiled
    rw [deleteBindings_eq table] at count aligned
    rw [← boundAfter_eq_iff table limited (by simpa using count)]
    rw [List.append_cancel_left_eq] at aligned
    refine ⟨?_, ?_⟩
    · rintro ⟨other, same, holds⟩
      rw [text] at same
      exact aligned.mp (Except.ok.inj same ▸ holds)
    · intro same
      exact ⟨s, text, aligned.mpr same⟩

/-- With a group limit, the values of a statement that changes or deletes rows are in their places exactly if no keys
are picked, or if the values of the order may as well stand before those of the joins and conditions. -/
theorem limitedChanges_aligned_iff {r : Record} (record : r.Sound t.dialect) (st : Statement) :
    (q.update t r = .ok st → (q.UpdateAligned t r st ↔ (q.PicksKeys t → q.OrderMoves t.numbersRows))) ∧
    (q.delete t = .ok st → (q.DeleteAligned t st ↔ (q.PicksKeys t → q.OrderMoves t.numbersRows))) :=
  ⟨limitedUpdate_aligned_iff table limited plainPrefix sound ordered record,
    limitedDelete_aligned_iff table limited plainPrefix sound ordered⟩

end

def reachable : Query where
  source := some (.table "staff")
  wheres := [⟨.compare "reachable" .eq (.value (.int 2)), .and, false⟩]
  orders := [.raw "pay * ?" [.int 3]]
  limit := some 4
  groupLimit := some ⟨1, "department"⟩

def bonus : Record where
  entries := [("bonus", .value (.int 1))]

theorem bonus_sound : bonus.Sound .postgres := by
  intro entry member
  have single : entry = ("bonus", .value (.int 1)) := by simpa [bonus] using member
  rw [single]
  exact ⟨PlainText.of_chars rfl, True.intro⟩

theorem reachable_sound : reachable.Sound { dialect := .postgres } := by
  have test : Condition.Sound { dialect := .postgres } (.compare "reachable" .eq (.value (.int 2))) :=
    .compare (PlainText.of_chars rfl) True.intro
  have order : (Order.raw "pay * ?" [.int 3]).Sound .postgres := Dialect.holds_scan rfl rfl
  unfold reachable
  constructor
  case source => simpa using Source.Sound.table (PlainText.of_chars rfl)
  case wheres => simpa using Predicate.Sound.intro test
  case orders => simpa using order
  case groupLimit => simpa using PlainText.of_chars rfl
  case distinct => exact True.intro
  all_goals simp

/-- The text asks for the value of the order before that of the condition, but they are bound the other way round. -/
theorem reachable_changes_misplaced :
    (∃ st, reachable.update { dialect := .postgres } bonus = .ok st ∧ st.bindings = [.int 1, .int 2, .int 3] ∧
      ¬ reachable.UpdateAligned { dialect := .postgres } bonus st) ∧
    ∃ st, reachable.delete { dialect := .postgres } = .ok st ∧ st.bindings = [.int 2, .int 3] ∧
      ¬ reachable.DeleteAligned { dialect := .postgres } st := by
  have plainPrefix : PlainText ({ dialect := .postgres } : Target).tablePrefix := PlainText.of_chars rfl
  have exactly := limitedChanges_aligned_iff (q := reachable) ⟨"staff", rfl⟩ rfl plainPrefix reachable_sound
    (fun _ => rfl) bonus_sound
  have wrong : ¬ (reachable.PicksKeys { dialect := .postgres } →
      reachable.OrderMoves (Target.numbersRows { dialect := .postgres })) := by
    intro moves
    have same : [Value.int 3, .int 2] = [.int 2, .int 3] := moves ⟨.inl rfl, rfl⟩
    simp at same
  obtain ⟨s, changes⟩ : ∃ s, reachable.updateSql { dialect := .postgres }
      (Target.recordAssignments { dialect := .postgres } bonus) = .ok s := ⟨_, rfl⟩
  obtain ⟨s', deletes⟩ : ∃ s, reachable.deleteSql { dialect := .postgres } = .ok s := ⟨_, rfl⟩
  refine ⟨?_, ?_⟩
  · have written := updateSql_around plainPrefix reachable_sound (fun _ => rfl)
      (Target.recordAssignments { dialect := .postgres } bonus)
    rw [changes] at written
    cases written with
    | ok around =>
      have binds := around.binds (Target.recordAssignments_binds plainPrefix bonus_sound)
      have finished : reachable.update { dialect := .postgres } bonus =
          .ok ⟨s.text, [.int 1, .int 2, .int 3]⟩ := by
        rw [update, changes]
        exact binds.finish_ok rfl
      exact ⟨_, finished, rfl, fun aligned => wrong (((exactly _).1 finished).mp aligned)⟩
  · have written := deleteSql_binds plainPrefix reachable_sound fun _ => rfl
    rw [deletes] at written
    cases written with
    | ok binds =>
      have finished : reachable.delete { dialect := .postgres } = .ok ⟨s'.text, [.int 2, .int 3]⟩ := by
        rw [delete, deletes]
        exact binds.finish_ok rfl
      exact ⟨_, finished, rfl, fun aligned => wrong (((exactly _).2 finished).mp aligned)⟩

end Query

end SqlCompiler
