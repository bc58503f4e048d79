import Mathlib.Data.List.Forall2
import Mathlib.Logic.Relation
import SqlCompiler.Proofs.Retention.Parts
import SqlCompiler.Select.Compile

namespace SqlCompiler

theorem exists_of_forall₂ {α β : Type} {R : α → β → Prop} {as : List α} {bs : List β} (all : List.Forall₂ R as bs)
    {a : α} (member : a ∈ as) : ∃ b ∈ bs, R a b := by
  induction all with
  | nil => cases member
  | cons head tail ih =>
    rcases List.mem_cons.mp member with rfl | later
    · exact ⟨_, by simp, head⟩
    · obtain ⟨b, inRest, related⟩ := ih later
      exact ⟨b, List.mem_cons_of_mem _ inRest, related⟩

theorem forall₂_of_ok {α β : Type} (one : α → Except Error β) (all : List α → Except Error (List β))
    (nil : all [] = .ok [])
    (cons : ∀ a rest, all (a :: rest) = one a >>= fun b => all rest >>= fun bs => Pure.pure (b :: bs)) {as : List α}
    {bs : List β} (compiled : all as = .ok bs) : List.Forall₂ (fun a b => one a = .ok b) as bs := by
  induction as generalizing bs with
  | nil =>
    rw [nil] at compiled
    cases compiled
    exact .nil
  | cons a rest ih =>
    rw [cons] at compiled
    obtain ⟨b, first, compiled⟩ := ok_of_bind compiled
    obtain ⟨bs, later, rfl⟩ := ok_of_map compiled
    exact .cons first (ih later)

section

variable {t : Target}

theorem selectionSqls_ok {items : List Selection} {sqls : List Sql} (compiled : selectionSqls t items = .ok sqls) :
    List.Forall₂ (fun item sql => item.sql t = .ok sql) items sqls :=
  forall₂_of_ok (Selection.sql t) (selectionSqls t) rfl (fun _ _ => rfl) compiled

theorem joinSqls_ok {joins : List Join} {sqls : List Sql} (compiled : joinSqls t joins = .ok sqls) :
    List.Forall₂ (fun join sql => join.sql t = .ok sql) joins sqls :=
  forall₂_of_ok (Join.sql t) (joinSqls t) rfl (fun _ _ => rfl) compiled

theorem predicateSqls_ok {clause : Clause} {tests : List (Conjunction × Sql)}
    (compiled : predicateSqls t clause = .ok tests) : List.Forall₂ (fun p test => p.sql t = .ok test) clause tests :=
  forall₂_of_ok (Predicate.sql t) (predicateSqls t) rfl (fun _ _ => rfl) compiled

def Union.keyword (u : Union) : String := if u.all then "UNION ALL " else "UNION "

def Union.sql (t : Target) (u : Union) : Except Error Sql := do
  return u.keyword ++ t.unionMember (← u.query.sql t)

theorem unionSqls_ok {unions : List Union} {sqls : List Sql} (compiled : unionSqls t unions = .ok sqls) :
    List.Forall₂ (fun u sql => u.sql t = .ok sql) unions sqls := by
  refine forall₂_of_ok (Union.sql t) (unionSqls t) rfl (fun u rest => ?_) compiled
  obtain ⟨q, all⟩ := u
  simp only [unionSqls, Union.sql, Union.keyword]
  cases q.sql t <;> rfl

theorem joinConditions_inOrder (tests : List (Conjunction × Sql)) :
    InOrder (tests.map fun test => test.2.text) (joinConditions tests).text := by
  fun_induction joinConditions tests with
  | case1 => exact True.intro
  | case2 word sql => exact ⟨"", "", by simp, breaks_empty, True.intro⟩
  | case3 first sql word next rest ih =>
    refine ⟨"", " " ++ (word.sql ++ (" " ++ (joinConditions ((word, next) :: rest)).text)), ?_,
      breaks_chars (.inl rfl) _, ((ih.after _).after _).after _⟩
    simp only [Sql.text_append, Sql.text_ofText, String.append_assoc, String.empty_append]

theorem Clause.sql_ok {clause : Clause} {s : Sql} (compiled : Clause.sql t clause = .ok s) :
    ∃ tests, List.Forall₂ (fun p test => Predicate.sql t p = .ok test) clause tests ∧
      InOrder (tests.map fun test => test.2.text) s.text := by
  obtain ⟨tests, found, rfl⟩ := ok_of_map compiled
  exact ⟨tests, predicateSqls_ok found, joinConditions_inOrder tests⟩

theorem Predicate.sql_ok {p : Predicate} {test : Conjunction × Sql} (compiled : p.sql t = .ok test) :
    ∃ sql, p.condition.sql t = .ok sql ∧ test = (p.conjunction, notWord p.negated ++ sql) := by
  obtain ⟨condition, conjunction, negated⟩ := p
  obtain ⟨sql, found, rfl⟩ := ok_of_map compiled
  exact ⟨sql, found, rfl⟩

theorem Clause.predicate_standsIn {clause : Clause} {p : Predicate} {s : Sql} (member : p ∈ clause)
    (compiled : Clause.sql t clause = .ok s) : ∃ test, p.sql t = .ok test ∧ StandsIn test.2.text s.text := by
  obtain ⟨tests, each, order⟩ := Clause.sql_ok compiled
  obtain ⟨test, inTests, tested⟩ := exists_of_forall₂ each member
  exact ⟨test, tested, order.standsIn (List.mem_map_of_mem inTests)⟩

theorem Clause.condition_standsIn {clause : Clause} {p : Predicate} {s : Sql} (member : p ∈ clause)
    (compiled : Clause.sql t clause = .ok s) : ∃ sql, p.condition.sql t = .ok sql ∧ StandsIn sql.text s.text := by
  obtain ⟨test, tested, inClause⟩ := Clause.predicate_standsIn member compiled
  obtain ⟨sql, found, rfl⟩ := Predicate.sql_ok tested
  exact ⟨sql, found, (Sql.standsIn_right _ sql).trans inClause⟩

end

inductive Condition.Asks : Condition → Query → Prop
  | nested {clause : Clause} {p : Predicate} {q : Query} (member : p ∈ clause) (asks : p.condition.Asks q) :
    Condition.Asks (.nested clause) q
  | hasRows (q : Query) : Condition.Asks (.hasRows (.query q)) q
  | inQuery (column : String) (q : Query) (negated : Bool) : Condition.Asks (.inQuery column (.query q) negated) q
  | compareQuery (column : String) (op : Operator) (q : Query) :
    Condition.Asks (.compareQuery column op (.query q)) q

/-- The second query stands in a part of the first that is written in its statement. -/
inductive Query.Encloses (q : Query) : Query → Prop
  | columns {inner : Query} {label : String} (listed : q.aggregate = none ∨ Target.aggregatesDerived q)
    (member : .derived inner label ∈ q.columns) : q.Encloses inner
  | source {inner : Query} {label : String} (found : q.source = some (.derived inner label)) : q.Encloses inner
  | derived {inner : Query} {label : String} {join : Join} (member : join ∈ q.joins)
    (target : join.target = .derived inner label) : q.Encloses inner
  | lateral {inner : Query} {label : String} {join : Join} (member : join ∈ q.joins)
    (target : join.target = .lateral inner label) : q.Encloses inner
  | on {inner : Query} {join : Join} {p : Predicate} (member : join ∈ q.joins) (plain : join.target.isLateral = false)
    (tested : p ∈ join.on) (asks : p.condition.Asks inner) : q.Encloses inner
  | wheres {inner : Query} {p : Predicate} (member : p ∈ q.wheres) (asks : p.condition.Asks inner) : q.Encloses inner
  | havings {inner : Query} {p : Predicate} (member : p ∈ q.havings) (asks : p.condition.Asks inner) :
    q.Encloses inner
  | unions {u : Union} (free : q.groupLimit = none) (member : u ∈ q.unions) : q.Encloses u.query

/-- The second query is the first or is written within it, at any depth. -/
def Query.Writes : Query → Query → Prop := Relation.ReflTransGen Query.Encloses

section

variable {t : Target}

theorem Condition.Asks.standsIn {condition : Condition} {inner : Query} (asks : condition.Asks inner) {s : Sql}
    (compiled : condition.sql t = .ok s) : ∃ rows, inner.sql t = .ok rows ∧ StandsIn rows.text s.text := by
  induction asks generalizing s with
  | @nested clause p q member asks ih =>
    obtain ⟨tests, found, rfl⟩ := ok_of_map compiled
    have whole : Clause.sql t clause = .ok (joinConditions tests) := by
      rw [Clause.sql, found]
      rfl
    obtain ⟨sql, condition, inClause⟩ := Clause.condition_standsIn member whole
    obtain ⟨rows, inner, inCondition⟩ := ih condition
    exact ⟨rows, inner, (inCondition.trans inClause).trans (Sql.standsIn_between _ _ (.inl rfl))⟩
  | hasRows q =>
    obtain ⟨rows, found, rfl⟩ := ok_of_map compiled
    exact ⟨rows, found, Sql.standsIn_between _ rows (.inl rfl)⟩
  | inQuery column q negated =>
    obtain ⟨rows, found, rfl⟩ := ok_of_map compiled
    exact ⟨rows, found, Sql.standsIn_between _ rows (.inr (.inl rfl))⟩
  | compareQuery column op q =>
    obtain ⟨_, _, compiled⟩ := ok_of_bind compiled
    obtain ⟨rows, found, rfl⟩ := ok_of_map compiled
    exact ⟨rows, found, Sql.standsIn_between _ rows (.inr (.inl rfl))⟩

theorem Clause.Asks.standsIn {clause : Clause} {p : Predicate} {inner : Query} {s : Sql} (member : p ∈ clause)
    (asks : p.condition.Asks inner) (compiled : Clause.sql t clause = .ok s) :
    ∃ rows, inner.sql t = .ok rows ∧ StandsIn rows.text s.text := by
  obtain ⟨sql, condition, inClause⟩ := Clause.condition_standsIn member compiled
  obtain ⟨rows, found, inCondition⟩ := asks.standsIn condition
  exact ⟨rows, found, inCondition.trans inClause⟩

theorem Target.derivedTable_standsIn (rows : Sql) (label : String) :
    StandsIn rows.text (t.derivedTable rows label).text := by
  unfold derivedTable
  exact Sql.standsIn_inside _ rows _ (.inr (.inl rfl))

theorem Join.sql_ok {join : Join} {s : Sql} (compiled : join.sql t = .ok s) :
    ∃ rows, join.target.sql t = .ok rows ∧ StandsIn rows.text s.text ∧
      (join.target.isLateral = false → join.on ≠ [] →
        ∃ tests, Clause.sql t join.on = .ok tests ∧ s.text = join.kind.sql ++ " JOIN " ++ rows.text ++ " ON " ++
          tests.text) := by
  obtain ⟨kind, target, on⟩ := join
  obtain ⟨rows, found, compiled⟩ := ok_of_bind compiled
  refine ⟨rows, found, ?_⟩
  split at compiled
  · rename_i lateral
    refine ⟨?_, fun plain => absurd lateral (by simp [plain])⟩
    unfold Target.lateralJoin at compiled
    split at compiled
    · cases compiled
    · split at compiled
      · cases compiled
        exact Sql.standsIn_right _ _
      · cases compiled
        exact Sql.standsIn_right _ _
      · cases compiled
        exact Sql.standsIn_right _ _
      · cases compiled
      · cases compiled
        exact Sql.standsIn_between _ _ (.inl rfl)
  · unfold Target.plainJoin at compiled
    split at compiled
    · rename_i none
      cases compiled
      exact ⟨Sql.standsIn_right _ _, fun _ some => absurd (List.isEmpty_iff.mp none) some⟩
    · obtain ⟨tests, conditions, rfl⟩ := ok_of_map compiled
      exact ⟨Sql.standsIn_inside _ rows _ (.inl rfl), fun _ _ => ⟨tests, conditions, by simp⟩⟩

theorem Selection.derived_standsIn {items : List Selection} {sqls : List Sql} {inner : Query} {label : String}
    (member : .derived inner label ∈ items) (compiled : selectionSqls t items = .ok sqls) {whole : String}
    (order : InOrder (sqls.map Sql.text) whole) : ∃ rows, inner.sql t = .ok rows ∧ StandsIn rows.text whole := by
  obtain ⟨item, inList, written⟩ := exists_of_forall₂ (selectionSqls_ok compiled) member
  obtain ⟨rows, found, rfl⟩ := ok_of_map written
  have inItem : StandsIn rows.text ("(" ++ rows ++ ") AS " ++ t.dialect.quoteName label : Sql).text :=
    Sql.standsIn_inside _ rows _ (.inr (.inl rfl))
  exact ⟨rows, found, inItem.trans (order.standsIn (List.mem_map_of_mem inList))⟩

theorem JoinTarget.standsIn {target : JoinTarget} {inner : Query} {label : String} {s : Sql}
    (rows : target = .derived inner label ∨ target = .lateral inner label) (compiled : target.sql t = .ok s) :
    ∃ rows, inner.sql t = .ok rows ∧ StandsIn rows.text s.text := by
  rcases rows with rfl | rfl
  all_goals
    obtain ⟨rows, found, rfl⟩ := ok_of_map compiled
    exact ⟨rows, found, t.derivedTable_standsIn rows label⟩

theorem Join.standsIn {joins : List Join} {sqls : List Sql} {join : Join} (member : join ∈ joins)
    (compiled : joinSqls t joins = .ok sqls) {whole : String} (order : InOrder (sqls.map Sql.text) whole) :
    ∃ sql, join.sql t = .ok sql ∧ StandsIn sql.text whole := by
  obtain ⟨sql, inList, found⟩ := exists_of_forall₂ (joinSqls_ok compiled) member
  exact ⟨sql, found, order.standsIn (List.mem_map_of_mem inList)⟩

theorem Query.Encloses.standsIn {q inner : Query} (encloses : q.Encloses inner) {s : Sql}
    (compiled : q.sql t = .ok s) : ∃ rows, inner.sql t = .ok rows ∧ StandsIn rows.text s.text := by
  rw [sql_eq_assemble] at compiled
  obtain ⟨aggregate, rows, listed, found, inWhole⟩ := Target.rows_of_assemble compiled
  -- the parts are those of the rows, which stand in the statement whether or not an aggregate is around them
  have parts := (Target.rows_standIn found).trans inWhole
  have inJoins {join : Join} (member : join ∈ q.joins) :
      ∃ sql, join.sql t = .ok sql ∧ StandsIn sql.text s.text := by
    obtain ⟨joins, compiled, order⟩ := parts.joins
    exact Join.standsIn member compiled order
  have inTarget {join : Join} {label : String} (member : join ∈ q.joins)
      (target : join.target = .derived inner label ∨ join.target = .lateral inner label) :
      ∃ rows, inner.sql t = .ok rows ∧ StandsIn rows.text s.text := by
    obtain ⟨sql, found, inSql⟩ := inJoins member
    obtain ⟨joined, found, inJoin, _⟩ := Join.sql_ok found
    obtain ⟨rows, found, inTarget⟩ := JoinTarget.standsIn target found
    exact ⟨rows, found, (inTarget.trans inJoin).trans inSql⟩
  cases encloses with
  | columns plain member =>
    obtain ⟨items, compiled, order⟩ := parts.columns (listed plain)
    exact Selection.derived_standsIn member compiled order
  | source derived =>
    obtain ⟨sql, compiled, inSql⟩ := parts.source _ _ derived
    have whole : sourceSql t q.source = .ok sql := compiled
    rw [derived] at whole
    obtain ⟨rows, found, rfl⟩ := ok_of_map whole
    exact ⟨rows, found, (t.derivedTable_standsIn rows _).trans inSql⟩
  | derived member target => exact inTarget member (.inl target)
  | lateral member target => exact inTarget member (.inr target)
  | on member plain tested asks =>
    obtain ⟨sql, found, inSql⟩ := inJoins member
    obtain ⟨joined, _, _, conditions⟩ := Join.sql_ok found
    obtain ⟨tests, compiled, text⟩ := conditions plain (List.ne_nil_of_mem tested)
    obtain ⟨rows, found, inTests⟩ := Clause.Asks.standsIn tested asks compiled
    exact ⟨rows, found, (text ▸ inTests.after _).trans inSql⟩
  | wheres member asks =>
    obtain ⟨sql, compiled, inSql⟩ := parts.wheres (List.ne_nil_of_mem member)
    obtain ⟨rows, found, inTests⟩ := Clause.Asks.standsIn member asks compiled
    exact ⟨rows, found, (inTests.after "WHERE ").trans inSql⟩
  | havings member asks =>
    obtain ⟨sql, compiled, inSql⟩ := parts.havings (List.ne_nil_of_mem member)
    obtain ⟨rows, found, inTests⟩ := Clause.Asks.standsIn member asks compiled
    exact ⟨rows, found, (inTests.after "HAVING ").trans inSql⟩
  | @unions u free member =>
    obtain ⟨members, compiled, inTail⟩ :=
      (Target.freeRows_standIn (q := { q with aggregate }) free found).2 (List.ne_nil_of_mem member)
    obtain ⟨sql, inList, written⟩ := exists_of_forall₂ (unionSqls_ok compiled) member
    obtain ⟨rows, found, rfl⟩ := ok_of_map written
    have inMember := (t.unionMember_standsIn rows).trans (Sql.standsIn_right u.keyword (t.unionMember rows))
    have inMembers := (t.unionTail_inOrder { q with aggregate } members).standsIn
      (List.mem_append_left _ (List.mem_map_of_mem inList))
    exact ⟨rows, found, ((inMember.trans inMembers).trans inTail).trans inWhole⟩

theorem Query.Writes.standsIn {q inner : Query} (writes : q.Writes inner) {s : Sql} (compiled : q.sql t = .ok s) :
    ∃ rows, inner.sql t = .ok rows ∧ StandsIn rows.text s.text := by
  induction writes with
  | refl => exact ⟨s, compiled, .refl _⟩
  | tail _ encloses ih =>
    obtain ⟨outer, found, inWhole⟩ := ih
    obtain ⟨rows, found, inOuter⟩ := encloses.standsIn found
    exact ⟨rows, found, inOuter.trans inWhole⟩

theorem Query.selectStatement_of_error {q : Query} {e : Error} (failed : q.sql t = .error e) :
    q.selectStatement t = .error e := by
  rw [selectStatement, failed]
  rfl

theorem Query.selectStatement_of_sql {q : Query} {s : Sql} (compiled : q.sql t = .ok s) :
    q.selectStatement t = q.finish t s.text := by
  rw [selectStatement, compiled]
  rfl

theorem Query.selectStatement_ok {q : Query} {st : Statement} (compiled : q.selectStatement t = .ok st) :
    ∃ s, q.sql t = .ok s ∧ st.sql = s.text := by
  obtain ⟨s, found, finished⟩ := ok_of_bind compiled
  obtain ⟨-, rfl⟩ := Dialect.of_finish finished
  exact ⟨s, found, rfl⟩

end

end SqlCompiler
