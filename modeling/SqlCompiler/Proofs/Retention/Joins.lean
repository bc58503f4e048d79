import SqlCompiler.Proofs.Placement.Selects
import SqlCompiler.Proofs.Retention.LateralConditions
import SqlCompiler.Proofs.Retention.Nested

namespace SqlCompiler

/-- The conditions of the join are written behind its `ON`, one after the other; a lateral join need not write any. -/
def Join.KeepsConditions (t : Target) (join : Join) (text : String) : Prop :=
  join.target.isLateral = false → join.on ≠ [] → ∃ before clause tests, text = before ++ " ON " ++ clause ∧
    List.Forall₂ (fun p test => Predicate.sql t p = .ok test) join.on tests ∧
    InOrder (tests.map fun test => test.2.text) clause

theorem Join.keepsConditions {t : Target} {join : Join} {s : Sql} (compiled : join.sql t = .ok s) :
    join.KeepsConditions t s.text := by
  intro plain some
  obtain ⟨rows, -, -, conditions⟩ := Join.sql_ok compiled
  obtain ⟨clause, compiled, text⟩ := conditions plain some
  obtain ⟨tests, each, inOrder⟩ := Clause.sql_ok compiled
  exact ⟨_, clause.text, tests, text, each, inOrder⟩

namespace Query

def WritesJoins (t : Target) (q : Query) (text : String) : Prop :=
  ∃ joins, List.Forall₂ (fun join sql => join.sql t = .ok sql ∧ join.KeepsConditions t sql.text) q.joins joins ∧
    InOrder (joins.map Sql.text) text

section

variable {t : Target} {q : Query}

theorem writesJoins_of_sql {s : Sql} (compiled : q.sql t = .ok s) : q.WritesJoins t s.text := by
  rw [sql_eq_assemble] at compiled
  obtain ⟨aggregate, rows, -, found, inWhole⟩ := Target.rows_of_assemble compiled
  obtain ⟨joins, compiled, inOrder⟩ := ((Target.rows_standIn found).trans inWhole).joins
  refine ⟨joins, (joinSqls_ok compiled).imp ?_, inOrder⟩
  exact fun join sql compiled => ⟨compiled, Join.keepsConditions compiled⟩

/-- Whether a query is refused is a matter of what the conditions of its lateral joins bind. -/
theorem selectStatement_of_bare {st : Statement} (compiled : q.bare.selectStatement t = .ok st) :
    q.selectStatement t =
      if q.laterals t.numbersRows = 0 then .ok st
      else .error (.bindingCount st.bindings.length (st.bindings.length + q.laterals t.numbersRows)) := by
  have lacks := bindings_bare t.numbersRows q
  obtain ⟨s, found, finished⟩ := ok_of_bind compiled
  obtain ⟨count, rfl⟩ := Dialect.of_finish finished
  rw [sql_bare] at found
  rw [selectStatement_of_sql found, finish, Dialect.finish]
  by_cases nothing : q.laterals t.numbersRows = 0
  · rw [nothing] at lacks
    rw [← lacks.eq, if_pos nothing, if_pos count]
  · have more : t.dialect.placeholders s.text ≠ (q.bindings t.numbersRows).length := by
      rw [lacks.length_eq, count]
      omega
    rw [if_neg nothing, if_neg more, count, lacks.length_eq]

theorem laterals_of_refused (plainPrefix : PlainText t.tablePrefix) (regular : q.bare.Regular t) {n m : Nat}
    (refused : q.selectStatement t = .error (.bindingCount n m)) : q.laterals t.numbersRows ≠ 0 := by
  have aligned := selectStatement_aligned plainPrefix regular
  generalize statement : q.bare.selectStatement t = result at aligned
  cases aligned with
  | ok _ =>
    -- the bare query is accepted, so only what its conditions would bind can be too much
    intro nothing
    rw [selectStatement_of_bare statement, if_pos nothing] at refused
    cases refused
  | error other =>
    -- the bare query fails, but not for its count of values: it does not compile, and neither does the query
    cases found : q.sql t with
    | ok s =>
      rw [selectStatement_of_sql ((sql_bare t q).trans found), finish, Dialect.finish] at statement
      split at statement
      · cases statement
      · cases statement
        exact absurd rfl (other _ _)
    | error e =>
      rw [selectStatement_of_error ((sql_bare t q).trans found)] at statement
      rw [selectStatement_of_error found] at refused
      cases statement
      cases refused
      exact absurd rfl (other _ _)

/-- The conditions of joins with tables and with the rows of queries are written with every join, in all queries that
are written in a select statement, and they never get it refused. The conditions of lateral joins leave no trace but
the refusal of a statement that is asked to bind values for them. -/
theorem conditions_of_joins :
    (∀ st, q.selectStatement t = .ok st → ∀ inner, q.Writes inner → inner.WritesJoins t st.sql) ∧
      q.sql t = q.bare.sql t ∧
      (∀ st, q.bare.selectStatement t = .ok st → q.selectStatement t =
        if q.laterals t.numbersRows = 0 then .ok st
        else .error (.bindingCount st.bindings.length (st.bindings.length + q.laterals t.numbersRows))) ∧
      (PlainText t.tablePrefix → q.bare.Regular t → ∀ n m, q.selectStatement t = .error (.bindingCount n m) →
        q.laterals t.numbersRows ≠ 0) := by
  refine ⟨fun st compiled inner writes => ?_, (sql_bare t q).symm, fun st => selectStatement_of_bare,
    fun plainPrefix regular n m => laterals_of_refused plainPrefix regular⟩
  obtain ⟨s, found, text⟩ := selectStatement_ok compiled
  obtain ⟨rows, found, inWhole⟩ := writes.standsIn found
  obtain ⟨joins, each, inOrder⟩ := writesJoins_of_sql found
  exact ⟨joins, each, text ▸ inOrder.within inWhole⟩

end

def upstairs : Query where
  source := some (.table "staff")
  joins := [⟨.inner, .table "rooms", [⟨.compare "floor" .eq (.value (.int 2)), .and, false⟩]⟩]

def visited (test : Condition) : Query where
  source := some (.table "staff")
  joins := [⟨.inner, .lateral { source := some (.table "visits"), limit := some 1 } "v", [⟨test, .and, false⟩]⟩]

def kindIs (kind : Int64) : Condition := .compare "v.kind" .eq (.value (.int kind))

theorem visited_bare_regular (test : Condition) : (visited test).bare.Regular { dialect := .postgres } := by
  have visits : Query.Regular { dialect := .postgres } { source := some (.table "visits"), limit := some 1 } := by
    refine ⟨?_, ⟨fun _ => rfl, fun _ => rfl, by simp⟩⟩
    constructor
    case source => simpa using Source.Sound.table (PlainText.of_chars rfl)
    case distinct => exact True.intro
    all_goals simp
  have join : Join.Sound { dialect := .postgres }
      ⟨.inner, .lateral { source := some (.table "visits"), limit := some 1 } "v", []⟩ :=
    .intro (.lateral visits.sound visits.places (PlainText.of_chars rfl)) (by simp) fun _ => rfl
  have shape : (visited test).bare = {
      source := some (.table "staff")
      joins := [⟨.inner, .lateral { source := some (.table "visits"), limit := some 1 } "v", []⟩] } := rfl
  rw [shape]
  refine ⟨?_, ⟨fun _ => rfl, fun _ => rfl, by simp⟩⟩
  constructor
  case source => simpa using Source.Sound.table (PlainText.of_chars rfl)
  case joins => simpa using join
  case distinct => exact True.intro
  all_goals simp

/-- The condition of the plain join is written; that of the lateral join only gets the statement refused. -/
theorem upstairs_and_visited :
    (∃ st, upstairs.selectStatement { dialect := .postgres } = .ok st ∧
      upstairs.WritesJoins { dialect := .postgres } st.sql) ∧
    (visited (kindIs 3)).selectStatement { dialect := .postgres } = .error (.bindingCount 0 1) ∧
    (visited (kindIs 3)).laterals (Target.numbersRows { dialect := .postgres }) ≠ 0 := by
  obtain ⟨st, compiled, -⟩ : ∃ st, upstairs.selectStatement { dialect := .postgres } = .ok st ∧ true :=
    ok_of_any (fun _ => true) (by decide +kernel)
  obtain ⟨bare, found, none⟩ : ∃ st, (visited (kindIs 3)).bare.selectStatement { dialect := .postgres } = .ok st ∧
      st.bindings.isEmpty := ok_of_any _ (by decide +kernel)
  obtain ⟨-, -, outcome, innocent⟩ := conditions_of_joins (t := { dialect := .postgres }) (q := visited (kindIs 3))
  have refused : (visited (kindIs 3)).selectStatement { dialect := .postgres } = .error (.bindingCount 0 1) := by
    rw [outcome bare found, List.isEmpty_iff.mp none]
    rfl
  exact ⟨⟨st, compiled, conditions_of_joins.1 st compiled upstairs .refl⟩, refused,
    innocent (PlainText.of_chars rfl) (visited_bare_regular _) 0 1 refused⟩

def ofStaff : Condition := .compareColumns "v.staff" .eq "staff.id"

/-- Each one of the staff is joined to visits of anyone. -/
theorem visited_loses_condition :
    (∃ st test, (visited ofStaff).selectStatement { dialect := .postgres } = .ok st ∧
      ofStaff.sql { dialect := .postgres } = .ok test ∧ ¬ StandsIn test.text st.sql) ∧
    (∃ st, (visited (kindIs 3)).bare.selectStatement { dialect := .postgres } = .ok st) ∧
    (visited (kindIs 3)).selectStatement { dialect := .postgres } = .error (.bindingCount 0 1) := by
  obtain ⟨st, compiled, absent⟩ : ∃ st, (visited ofStaff).selectStatement { dialect := .postgres } = .ok st ∧
      st.sql.toList.all (· ≠ '=') := ok_of_any _ (by decide +kernel)
  obtain ⟨test, found⟩ : ∃ test, ofStaff.sql { dialect := .postgres } = .ok test := ⟨_, rfl⟩
  obtain ⟨bare, compiledBare, none⟩ : ∃ st,
      (visited (kindIs 3)).bare.selectStatement { dialect := .postgres } = .ok st ∧ st.bindings.isEmpty :=
    ok_of_any _ (by decide +kernel)
  have equals : '=' ∈ test.text.toList := by
    cases found
    decide +kernel
  refine ⟨⟨st, test, compiled, found, not_standsIn absent equals⟩, ⟨bare, compiledBare⟩, ?_⟩
  rw [selectStatement_of_bare compiledBare, List.isEmpty_iff.mp none]
  rfl

end Query

end SqlCompiler
