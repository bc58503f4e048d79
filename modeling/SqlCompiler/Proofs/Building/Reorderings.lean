import SqlCompiler.Select.Compile
import SqlCompiler.Proofs.Building.Steps

namespace SqlCompiler

namespace Step

def run (q : Query) (steps : List Step) : Except Error Query := steps.foldlM (fun q s => s.apply q) q

/-- The steps are the same, in an order that keeps what may decide about the query. -/
structure Reorders (steps steps' : List Step) : Prop where
  perm : steps.Perm steps'
  within : ∀ c : Category, steps.filter (c ∈ ·.categories) = steps'.filter (c ∈ ·.categories)
  unions : ∀ c ∈ Category.paged, steps.filter (fun s => c ∈ s.categories ∨ .unions ∈ s.categories) =
    steps'.filter fun s => c ∈ s.categories ∨ .unions ∈ s.categories

variable {s s' : Step} {steps steps' before behind : List Step} {q r : Query}

theorem Reorders.meeting (same : Reorders steps steps') {c c' : Category} (meets : c.Meets c') :
    steps.filter (fun s => c ∈ s.categories ∨ c' ∈ s.categories) =
      steps'.filter fun s => c ∈ s.categories ∨ c' ∈ s.categories := by
  rcases meets with rfl | ⟨paged, rfl⟩ | ⟨rfl, paged⟩
  · simpa only [or_self] using same.within c
  · exact same.unions c paged
  · simpa only [or_comm] using same.unions c' paged

section

variable {p : Step → Prop} [DecidablePred p]

theorem none_before (same : (s :: steps).filter p = (before ++ s :: behind).filter p) (own : p s) (new : s ∉ before) :
    ∀ y ∈ before, ¬ p y := by
  intro y earlier found
  rw [List.filter_append, List.filter_cons_of_pos (p := fun y => decide (p y)) (decide_eq_true own)] at same
  cases listed : before.filter p with
  | nil => exact List.filter_eq_nil_iff.mp listed y earlier (decide_eq_true found)
  | cons z rest =>
    rw [listed] at same
    obtain ⟨rfl, -⟩ := List.cons.inj same
    exact new (List.mem_filter.mp (listed ▸ List.mem_cons_self)).1

theorem filter_cut (same : (s :: steps).filter p = (before ++ s :: behind).filter p) (new : s ∉ before) :
    steps.filter p = (before ++ behind).filter p := by
  by_cases own : p s
  · have none : before.filter p = [] := List.filter_eq_nil_iff.mpr (by simpa using none_before same own new)
    simpa [own, none] using same
  · simpa [own] using same

end

theorem Reorders.front (same : Reorders (s :: steps) steps') :
    ∃ before behind, steps' = before ++ s :: behind ∧ (∀ y ∈ before, y.Apart s) ∧
      Reorders steps (before ++ behind) := by
  obtain ⟨before, behind, rfl, new⟩ := List.eq_append_cons_of_mem (same.perm.subset List.mem_cons_self)
  refine ⟨before, behind, rfl, fun y earlier c of_y c' of_s meets => ?_, ?_, fun c => ?_, fun c paged => ?_⟩
  · exact none_before (same.meeting meets) (.inr of_s) new y earlier (.inl of_y)
  · exact (List.perm_cons s).mp (same.perm.trans List.perm_middle)
  · exact filter_cut (same.within c) new
  · exact filter_cut (same.unions c paged) new

theorem run_cons : run q (s :: steps) = .ok r ↔ ∃ a, s.apply q = .ok a ∧ run a steps = .ok r := by
  simp only [run, List.foldlM_cons]
  cases s.apply q <;> simp [bind, Except.bind]

theorem run_swap (apart : s.Apart s') (ok : run q (s :: s' :: steps) = .ok r) : run q (s' :: s :: steps) = .ok r := by
  obtain ⟨a, first, ok⟩ := run_cons.mp ok
  obtain ⟨b, second, ok⟩ := run_cons.mp ok
  obtain ⟨f, found, rfl⟩ := apply_ok_iff.mp first
  obtain ⟨g, found', rfl⟩ := apply_ok_iff.mp second
  have same := (update_changes found).commute (update_changes found') apart q
  refine run_cons.mpr ⟨g q, apply_ok_iff.mpr ⟨g, found', rfl⟩, run_cons.mpr ⟨f (g q), ?_, same ▸ ok⟩⟩
  exact apply_ok_iff.mpr ⟨f, found, rfl⟩

/-- A step is brought to the front of steps that it can change places with. -/
theorem run_front (apart : ∀ y ∈ before, y.Apart s) :
    run q (before ++ s :: behind) = .ok r ↔ run q (s :: (before ++ behind)) = .ok r := by
  induction before generalizing q with
  | nil => exact Iff.rfl
  | cons y before ih =>
    have swapped : y.Apart s := apart y List.mem_cons_self
    calc run q (y :: (before ++ s :: behind)) = .ok r
        ↔ ∃ a, y.apply q = .ok a ∧ run a (s :: (before ++ behind)) = .ok r := by
          simp only [run_cons (s := y), ih fun z member => apart z (List.mem_cons_of_mem y member)]
      _ ↔ run q (y :: s :: (before ++ behind)) = .ok r := run_cons.symm
      _ ↔ run q (s :: y :: (before ++ behind)) = .ok r := ⟨run_swap swapped, run_swap swapped.symm⟩

theorem Reorders.run_iff (same : Reorders steps steps') (q r : Query) : run q steps = .ok r ↔ run q steps' = .ok r := by
  induction steps generalizing q steps' with
  | nil => rw [List.nil_perm.mp same.perm]
  | cons s steps ih =>
    obtain ⟨before, behind, rfl, apart, later⟩ := same.front
    simp only [run_front apart, run_cons, ih later]

/-- Steps that are not of one category, nor of a union and an order, a limit or an offset, lead to the same query in
either order. A chain and its reordering build the same query, and what is compiled of it is the same in every
dialect. -/
theorem reordered_builds_same :
    (∀ {s s' : Step}, s.Apart s' → ∀ {q a b : Query}, s.apply q = .ok a → s'.apply q = .ok b →
      ∃ r, s'.apply a = .ok r ∧ s.apply b = .ok r) ∧
    ∀ {steps steps' : List Step}, Reorders steps steps' → ∀ q : Query,
      (∀ r, run q steps = .ok r ↔ run q steps' = .ok r) ∧
      ∀ (t : Target) (st : Statement),
        (do (← run q steps).selectStatement t) = .ok st ↔ (do (← run q steps').selectStatement t) = .ok st := by
  refine ⟨apply_commute, fun same q => ⟨same.run_iff q, fun t st => ?_⟩⟩
  constructor
  · intro compiled
    obtain ⟨r, built, compiled⟩ := ok_of_bind compiled
    rw [(same.run_iff q r).mp built]
    exact compiled
  · intro compiled
    obtain ⟨r, built, compiled⟩ := ok_of_bind compiled
    rw [(same.run_iff q r).mpr built]
    exact compiled

def paidOrders : List Step :=
  [.whereIn "status" [.value (.text "paid")] .and false, .orderBy (.column "region" .asc),
    .union { source := some (.table "archived_orders") } false]

def tableFirst : List Step := .from_ (.table "orders") :: (paidOrders ++ [.limit 5])

def tableLater : List Step := paidOrders ++ .from_ (.table "orders") :: [.limit 5]

theorem tableLater_builds_same :
    (∃ r, (Step.from_ (.table "orders")).apply ({} : Query).reorder = .ok r ∧
      Step.reorder.apply (({} : Query).from_ (.table "orders")) = .ok r) ∧
    ∃ st, (do (← run {} tableFirst).selectStatement { dialect := .postgres }) = .ok st ∧
      (do (← run {} tableLater).selectStatement { dialect := .postgres }) = .ok st := by
  obtain ⟨commute, chains⟩ := reordered_builds_same
  have reorders : Reorders tableFirst tableLater := by
    refine ⟨List.perm_middle.symm, fun c => ?_, fun c paged => ?_⟩
    · cases c <;> rfl
    · cases c <;> first | rfl | exact absurd paged (by decide)
  obtain ⟨st, compiled, -⟩ : ∃ st,
      (do (← run {} tableFirst).selectStatement { dialect := .postgres }) = .ok st ∧ true :=
    ok_of_any (fun _ => true) (by decide +kernel)
  refine ⟨commute (s := .reorder) ?_ rfl rfl, st, compiled, ((chains reorders {}).2 _ st).mp compiled⟩
  rintro c own c' other
  rw [List.mem_singleton.mp own, List.mem_singleton.mp other]
  decide

end Step

end SqlCompiler
