import SqlCompiler.Proofs.Retention.RestrictedChanges

namespace SqlCompiler

/-- The condition is the second one or has it in a clause within it, at any depth. -/
inductive Condition.Holds : Condition → Condition → Prop
  | self (c : Condition) : Condition.Holds c c
  | nested {clause : Clause} {p : Predicate} {c : Condition} (member : p ∈ clause) (holds : p.condition.Holds c) :
    Condition.Holds (.nested clause) c

/-- The query tests its rows by the condition, in a clause that is written. -/
inductive Query.Tests (q : Query) (c : Condition) : Prop
  | on {join : Join} {p : Predicate} (member : join ∈ q.joins) (plain : join.target.isLateral = false)
    (tested : p ∈ join.on) (holds : p.condition.Holds c) : q.Tests c
  | wheres {p : Predicate} (member : p ∈ q.wheres) (holds : p.condition.Holds c) : q.Tests c
  | havings {p : Predicate} (member : p ∈ q.havings) (holds : p.condition.Holds c) : q.Tests c

namespace Condition

/-- The condition has the second one within it, itself or in a query that it asks. -/
def Reaches (outer c : Condition) : Prop :=
  outer.Holds c ∨ ∃ asked inner, outer.Asks asked ∧ asked.Writes inner ∧ inner.Tests c

def comparison? (t : Target) : Condition → Option (String × Operator × Except Error String)
  | .compare column op value => some (t.column column, op, .ok value.sql.text)
  | .compareColumns first op second => some (t.column first, op, .ok (t.column second))
  | .datePart column part op value => some (t.datePart column part, op, .ok value.sql.text)
  | .compareQuery column op query =>
    some (t.column column, op, (fun rows => "(" ++ rows.text ++ ")") <$> query.sql t)
  | .compareRow columns op values =>
    some ("(" ++ t.columns columns ++ ")", op, .ok ("(" ++ (parameters values).text ++ ")"))
  | .jsonLength column op value => some (t.jsonLength column, op, .ok value.sql.text)
  | _ => none

def comparesValue : Condition → Bool
  | .compare _ _ _ => true
  | _ => false

end Condition

/-- A number as a truth value: one that is not zero is true. -/
def Target.truthOf (t : Target) (number : String) : String :=
  match t.dialect with
  | .postgres => "(" ++ number ++ ")::bool"
  | .sqlServer => "(" ++ number ++ ") != 0"
  | .mysql | .sqlite => number

section

variable {t : Target}

theorem Condition.nested_standsIn {clause : Clause} {s : Sql} (compiled : Condition.sql t (.nested clause) = .ok s) :
    ∃ tests, Clause.sql t clause = .ok tests ∧ StandsIn tests.text s.text := by
  obtain ⟨tests, found, rfl⟩ := ok_of_map compiled
  refine ⟨joinConditions tests, ?_, Sql.standsIn_between _ _ (.inl rfl)⟩
  rw [Clause.sql, found]
  rfl

theorem Join.condition_standsIn {join : Join} {p : Predicate} {s : Sql} (plain : join.target.isLateral = false)
    (tested : p ∈ join.on) (compiled : join.sql t = .ok s) :
    ∃ sql, p.condition.sql t = .ok sql ∧ StandsIn sql.text s.text := by
  obtain ⟨joined, _, _, conditions⟩ := Join.sql_ok compiled
  obtain ⟨tests, found, text⟩ := conditions plain (List.ne_nil_of_mem tested)
  obtain ⟨sql, condition, inTests⟩ := Clause.condition_standsIn tested found
  exact ⟨sql, condition, text ▸ inTests.after _⟩

theorem Condition.Holds.standsIn {outer c : Condition} (holds : outer.Holds c) {s : Sql}
    (compiled : outer.sql t = .ok s) : ∃ own, c.sql t = .ok own ∧ StandsIn own.text s.text := by
  induction holds generalizing s with
  | self c => exact ⟨s, compiled, .refl _⟩
  | nested member _ ih =>
    obtain ⟨tests, found, inWhole⟩ := Condition.nested_standsIn compiled
    obtain ⟨sql, condition, inClause⟩ := Clause.condition_standsIn member found
    obtain ⟨own, found, inCondition⟩ := ih condition
    exact ⟨own, found, (inCondition.trans inClause).trans inWhole⟩

theorem Clause.holds_standsIn {clause : Clause} {p : Predicate} {c : Condition} {s : Sql} (member : p ∈ clause)
    (holds : p.condition.Holds c) (compiled : Clause.sql t clause = .ok s) :
    ∃ own, c.sql t = .ok own ∧ StandsIn own.text s.text := by
  obtain ⟨sql, condition, inClause⟩ := Clause.condition_standsIn member compiled
  obtain ⟨own, found, inCondition⟩ := holds.standsIn condition
  exact ⟨own, found, inCondition.trans inClause⟩

theorem Query.Tests.standsIn {q : Query} {c : Condition} (tests : q.Tests c) {s : Sql} (compiled : q.sql t = .ok s) :
    ∃ own, c.sql t = .ok own ∧ StandsIn own.text s.text := by
  rw [sql_eq_assemble] at compiled
  obtain ⟨aggregate, rows, listed, found, inWhole⟩ := Target.rows_of_assemble compiled
  have parts := (Target.rows_standIn found).trans inWhole
  cases tests with
  | on member plain tested holds =>
    obtain ⟨joins, joined, order⟩ := parts.joins
    obtain ⟨sql, found, inSql⟩ := Join.standsIn member joined order
    obtain ⟨condition, found, inJoin⟩ := Join.condition_standsIn plain tested found
    obtain ⟨own, found, inCondition⟩ := holds.standsIn found
    exact ⟨own, found, (inCondition.trans inJoin).trans inSql⟩
  | wheres member holds =>
    obtain ⟨sql, tested, inSql⟩ := parts.wheres (List.ne_nil_of_mem member)
    obtain ⟨own, found, inTests⟩ := Clause.holds_standsIn member holds tested
    exact ⟨own, found, (inTests.after "WHERE ").trans inSql⟩
  | havings member holds =>
    obtain ⟨sql, tested, inSql⟩ := parts.havings (List.ne_nil_of_mem member)
    obtain ⟨own, found, inTests⟩ := Clause.holds_standsIn member holds tested
    exact ⟨own, found, (inTests.after "HAVING ").trans inSql⟩

theorem Condition.Reaches.standsIn {outer c : Condition} (reaches : outer.Reaches c) {s : Sql}
    (compiled : outer.sql t = .ok s) : ∃ own, c.sql t = .ok own ∧ StandsIn own.text s.text := by
  rcases reaches with holds | ⟨asked, inner, asks, writes, tests⟩
  · exact holds.standsIn compiled
  · obtain ⟨rows, found, inCondition⟩ := asks.standsIn compiled
    obtain ⟨within, found, inRows⟩ := writes.standsIn found
    obtain ⟨own, found, inInner⟩ := tests.standsIn found
    exact ⟨own, found, (inInner.trans inRows).trans inCondition⟩

theorem Query.update_renders {q : Query} {r : Record} {st : Statement} (compiled : q.update t r = .ok st) :
    q.RendersRestrictions t st.sql := by
  unfold update at compiled
  split at compiled
  · cases compiled
  · obtain ⟨s, found, finished⟩ := ok_of_bind compiled
    obtain ⟨-, rfl⟩ := Dialect.of_finish finished
    obtain ⟨head, -, form⟩ := updateSql_form found
    exact form.renders

theorem Query.delete_renders {q : Query} {st : Statement} (compiled : q.delete t = .ok st) :
    q.RendersRestrictions t st.sql := by
  obtain ⟨s, found, finished⟩ := ok_of_bind compiled
  obtain ⟨-, rfl⟩ := Dialect.of_finish finished
  obtain ⟨head, form⟩ := deleteSql_form found
  exact form.renders

theorem Query.RendersRestrictions.standsIn {q : Query} {text : String} (renders : q.RendersRestrictions t text)
    {p : Predicate} {c : Condition} (reaches : p.condition.Reaches c)
    (member : p ∈ q.wheres ∨ ∃ join ∈ q.joins, join.target.isLateral = false ∧ p ∈ join.on) :
    ∃ own, c.sql t = .ok own ∧ StandsIn own.text text := by
  rcases member with member | ⟨join, member, plain, tested⟩
  · obtain ⟨test, compiled, inText⟩ := renders (.condition p) (mem_restrictions.mpr member) rfl
    obtain ⟨sql, found, rfl⟩ := Predicate.sql_ok compiled
    obtain ⟨own, found, inCondition⟩ := reaches.standsIn found
    exact ⟨own, found, (inCondition.trans (Sql.standsIn_right _ sql)).trans inText⟩
  · obtain ⟨sql, compiled, inText⟩ := renders (.join join) (mem_restrictions.mpr member) rfl
    obtain ⟨condition, found, inJoin⟩ := Join.condition_standsIn plain tested compiled
    obtain ⟨own, found, inCondition⟩ := reaches.standsIn found
    exact ⟨own, found, (inCondition.trans inJoin).trans inText⟩

theorem Target.comparison_bitwise (strict : t.dialect = .postgres ∨ t.dialect = .sqlServer) {op : Operator}
    (bitwise : op.isBitwise) (column : String) (value : Operand) :
    (t.comparison column op value).text = t.truthOf (t.column column ++ " " ++ op.sql ++ " " ++ value.sql.text) := by
  unfold comparison truthOf
  rcases strict with dialect | dialect <;>
    simp only [dialect, if_pos bitwise, Sql.text_append, Sql.text_ofText, String.append_assoc]

theorem Target.datePartComparison_text (strict : t.dialect = .postgres ∨ t.dialect = .sqlServer) (column : String)
    (part : DatePart) (op : Operator) (value : Operand) : (t.datePartComparison column part op value).text =
      t.datePart column part ++ " " ++ op.sql ++ " " ++ value.sql.text := by
  unfold datePartComparison
  rcases strict with dialect | dialect <;> simp only [dialect, Sql.text_append, Sql.text_ofText]

theorem Target.checked_text {op : Operator} {s : Sql} {text : String} (same : s.text = text) :
    Sql.text <$> (t.check op >>= fun _ => .ok s) = t.check op >>= fun _ => .ok text := by
  rw [map_bind, ← same]
  rfl

theorem Condition.bitwise_text (strict : t.dialect = .postgres ∨ t.dialect = .sqlServer) {c : Condition}
    {left : String} {op : Operator} {right : Except Error String} (compares : c.comparison? t = some (left, op, right))
    (bitwise : op.isBitwise) : Sql.text <$> c.sql t = do
      t.check op
      let right ← right
      let number := left ++ " " ++ op.sql ++ " " ++ right
      return if c.comparesValue then t.truthOf number else number := by
  have opens : " (" = " " ++ "(" := rfl
  have close : ") " = ")" ++ " " := rfl
  cases c with
  | compare column op value =>
    cases compares
    exact Target.checked_text (Target.comparison_bitwise strict bitwise column value)
  | compareColumns first op second =>
    cases compares
    refine Target.checked_text ?_
    simp only [Sql.text_append, Sql.text_ofText]
    rfl
  | datePart column part op value =>
    cases compares
    exact Target.checked_text (Target.datePartComparison_text strict column part op value)
  | compareQuery column op query =>
    cases compares
    simp only [Condition.sql, map_bind]
    refine bind_congr fun _ => ?_
    cases query.sql t with
    | error e => rfl
    | ok rows =>
      refine congrArg Except.ok ?_
      simp only [Sql.text_append, Sql.text_ofText, comparesValue, Bool.false_eq_true, if_false, opens,
        String.append_assoc]
  | compareRow columns op values =>
    cases compares
    refine Target.checked_text ?_
    simp only [Sql.text_append, Sql.text_ofText, opens, close, String.append_assoc]
    rfl
  | jsonLength column op value =>
    cases compares
    refine Target.checked_text ?_
    simp only [Sql.text_append, Sql.text_ofText]
    rfl
  | _ => cases compares

theorem Target.truthOf_ne (strict : t.dialect = .postgres ∨ t.dialect = .sqlServer) (number : String) :
    t.truthOf number ≠ number := by
  intro same
  have lengths := congrArg String.length same
  have bracket : "(".length = 1 := rfl
  unfold truthOf at lengths
  rcases strict with dialect | dialect <;>
    simp only [dialect, String.length_append, bracket] at lengths <;> omega

theorem Condition.bitwise_truth_iff (strict : t.dialect = .postgres ∨ t.dialect = .sqlServer) {c : Condition}
    {left r : String} {op : Operator} (compares : c.comparison? t = some (left, op, .ok r)) (bitwise : op.isBitwise)
    {own : Sql} (compiled : c.sql t = .ok own) :
    own.text = t.truthOf (left ++ " " ++ op.sql ++ " " ++ r) ↔ c.comparesValue = true := by
  have text := c.bitwise_text strict compares bitwise
  rw [compiled] at text
  obtain ⟨_, -, text⟩ := ok_of_bind text.symm
  rw [← Except.ok.inj text]
  cases c.comparesValue with
  | true => simp
  | false => simpa using (t.truthOf_ne strict _).symm

/-- Where truth values are wanted, a bitwise operator yields one in the comparison of a column with a value and in no
other condition. The condition is written so wherever it stands in a query, at any depth. -/
theorem Condition.bitwise_written (t : Target) (strict : t.dialect = .postgres ∨ t.dialect = .sqlServer)
    {c : Condition} {left : String} {op : Operator} {right : Except Error String}
    (compares : c.comparison? t = some (left, op, right)) (bitwise : op.isBitwise) :
    (Sql.text <$> c.sql t = do
      t.check op
      let right ← right
      let number := left ++ " " ++ op.sql ++ " " ++ right
      return if c.comparesValue then t.truthOf number else number) ∧
    (∀ r own, right = .ok r → c.sql t = .ok own →
      (own.text = t.truthOf (left ++ " " ++ op.sql ++ " " ++ r) ↔ c.comparesValue = true)) ∧
    (∀ q st, Query.selectStatement t q = .ok st → ∀ inner, q.Writes inner → inner.Tests c →
      ∃ own, c.sql t = .ok own ∧ StandsIn own.text st.sql) ∧
    ∀ q st, (Query.delete t q = .ok st ∨ ∃ r, Query.update t q r = .ok st) → ∀ p : Predicate, p.condition.Reaches c →
      (p ∈ q.wheres ∨ ∃ join ∈ q.joins, join.target.isLateral = false ∧ p ∈ join.on) →
      ∃ own, c.sql t = .ok own ∧ StandsIn own.text st.sql := by
  refine ⟨c.bitwise_text strict compares bitwise, fun r own found compiled => ?_,
    fun q st compiled inner writes tests => ?_, fun q st written p reaches member => ?_⟩
  · subst found
    exact c.bitwise_truth_iff strict compares bitwise compiled
  · obtain ⟨s, found, text⟩ := Query.selectStatement_ok compiled
    obtain ⟨rows, found, inWhole⟩ := writes.standsIn found
    obtain ⟨own, found, inRows⟩ := tests.standsIn found
    exact ⟨own, found, text ▸ inRows.trans inWhole⟩
  · rcases written with deleted | ⟨r, updated⟩
    · exact (Query.delete_renders deleted).standsIn reaches member
    · exact (Query.update_renders updated).standsIn reaches member

end

namespace Query

def flagged : Query where
  source := some (.table "staff")
  wheres := [⟨.nested [⟨.compare "flags" .bitAnd (.value (.int 4)), .and, false⟩], .and, true⟩]

theorem flagged_by_truth :
    Condition.comparison? { dialect := .postgres } (.compare "flags" .bitAnd (.value (.int 4))) =
        some ("\"flags\"", .bitAnd, .ok "?") ∧
      ∃ st, flagged.selectStatement { dialect := .postgres } = .ok st ∧
        StandsIn "(\"flags\" & ?)::bool" st.sql := by
  obtain ⟨st, compiled, -⟩ : ∃ st, flagged.selectStatement { dialect := .postgres } = .ok st ∧ true :=
    ok_of_any (fun _ => true) (by decide +kernel)
  have compares : Condition.comparison? { dialect := .postgres } (.compare "flags" .bitAnd (.value (.int 4))) =
      some ("\"flags\"", .bitAnd, .ok "?") := rfl
  obtain ⟨-, -, written, -⟩ := Condition.bitwise_written { dialect := .postgres } (.inl rfl) compares rfl
  have tests : flagged.Tests (.compare "flags" .bitAnd (.value (.int 4))) :=
    .wheres List.mem_cons_self (.nested List.mem_cons_self (.self _))
  obtain ⟨own, found, inWhole⟩ := written flagged st compiled flagged .refl tests
  cases found
  exact ⟨compares, st, compiled, inWhole⟩

def masked : Query where
  source := some (.table "staff")
  wheres := [⟨.compareColumns "flags" .bitAnd "mask", .and, false⟩]

theorem masked_by_number :
    ∃ st, masked.selectStatement { dialect := .postgres } = .ok st ∧
      masked.Tests (.compareColumns "flags" .bitAnd "mask") ∧
      ¬ StandsIn (Target.truthOf { dialect := .postgres } "\"flags\" & \"mask\"") st.sql := by
  obtain ⟨st, compiled, absent⟩ : ∃ st, masked.selectStatement { dialect := .postgres } = .ok st ∧
      st.sql.toList.all (· ≠ ':') := ok_of_any _ (by decide +kernel)
  have tests : masked.Tests (.compareColumns "flags" .bitAnd "mask") := .wheres List.mem_cons_self (.self _)
  exact ⟨st, compiled, tests, not_standsIn absent (by decide +kernel)⟩

end Query

end SqlCompiler
