import SqlCompiler.Proofs.Placement.LimitedChanges
import SqlCompiler.Proofs.Retention.Unions

namespace SqlCompiler

inductive Restriction
  | condition (p : Predicate)
  | join (j : Join)
  | limit (n : UInt64)
  | offset (n : UInt64)
  | having (p : Predicate)
  | groupLimit (g : GroupLimit)
  | union (u : Union)
  | unionLimit (n : UInt64)
  | unionOffset (n : UInt64)

def Query.restrictions (q : Query) : List Restriction :=
  q.wheres.map .condition ++ q.joins.map .join ++ q.limit.toList.map .limit ++ q.offset.toList.map .offset ++
    q.havings.map .having ++ q.groupLimit.toList.map .groupLimit ++ q.unions.map .union ++
    q.unionLimit.toList.map .unionLimit ++ q.unionOffset.toList.map .unionOffset

namespace Target

def lastRowTest (t : Target) (g : GroupLimit) (offset : Option UInt64) : String :=
  t.dialect.quoteName "group_row" ++ " <= " ++ toString (lastRow g offset)

def skippedRowTest (t : Target) (n : UInt64) : String :=
  t.dialect.quoteName "group_row" ++ " > " ++ toString n.toNat

end Target

/-- The restriction is written in the text. Rows of groups are counted off by their numbers, and SQL Server has a word
of its own for a limit. -/
def Restriction.Rendered (t : Target) (q : Query) (text : String) : Restriction → Prop
  | .condition p | .having p => ∃ sql, p.sql t = .ok sql ∧ StandsIn sql.2.text text
  | .join j => ∃ sql, j.sql t = .ok sql ∧ StandsIn sql.text text
  | .limit n =>
    StandsIn (if t.dialect = .sqlServer then "TOP (" ++ toString n.toNat ++ ")" else Target.limitWord n) text
  | .offset n =>
    StandsIn (if q.groupLimit.isSome then t.skippedRowTest n else Target.offsetWord n) text
  | .groupLimit g => StandsIn (t.lastRowTest g q.offset) text
  | .union u => ∃ sql, u.sql t = .ok sql ∧ StandsIn sql.text text
  | .unionLimit n => StandsIn (Target.limitWord n) text
  | .unionOffset n => StandsIn (Target.offsetWord n) text

namespace Query

instance (t : Target) (q : Query) : Decidable (q.PicksKeys t) := inferInstanceAs (Decidable (_ ∧ _))

/-- Where MySQL writes joins it cannot write a limit. -/
def keepsLimit (t : Target) (q : Query) : Bool := t.dialect ≠ .mysql ∨ q.joins.isEmpty

def keepsUnion (t : Target) (q : Query) : Bool := q.PicksKeys t ∧ q.groupLimit.isNone ∧ ¬ q.unions.isEmpty

/-- Whether a statement that writes says anything of a restriction. -/
def expresses (t : Target) (q : Query) : Restriction → Bool
  | .condition _ | .join _ => true
  | .limit _ => q.keepsLimit t
  | .offset _ | .having _ | .groupLimit _ => q.PicksKeys t
  | .union _ | .unionLimit _ | .unionOffset _ => q.keepsUnion t

/-- The query without the restrictions that a statement that writes says nothing of. -/
def kept (t : Target) (q : Query) : Query :=
  { (if q.keepsUnion t then q else q.withoutUnion) with
    joins := q.joins
    wheres := q.wheres
    limit := if q.keepsLimit t then q.limit else none
    offset := if q.PicksKeys t then q.offset else none
    havings := if q.PicksKeys t then q.havings else []
    groupLimit := if q.PicksKeys t then q.groupLimit else none }

theorem restrictions_kept (t : Target) (q : Query) :
    (q.kept t).restrictions = q.restrictions.filter (q.expresses t) := by
  have filter_map (keeps : Bool) {α : Type} (f : α → Restriction) (all : ∀ a, q.expresses t (f a) = keeps)
      (as : List α) : (as.map f).filter (q.expresses t) = if keeps then as.map f else [] := by
    cases keeps <;> simp [List.filter_map, Function.comp_def, all]
  have always {α : Type} := @filter_map true α
  have limited {α : Type} := @filter_map (q.keepsLimit t) α
  have picked {α : Type} := @filter_map (q.PicksKeys t) α
  have united {α : Type} := @filter_map (q.keepsUnion t) α
  simp only [restrictions, List.filter_append, always .condition fun _ => rfl, always .join fun _ => rfl,
    limited .limit fun _ => rfl, picked .offset fun _ => rfl, picked .having fun _ => rfl,
    picked .groupLimit fun _ => rfl, united .union fun _ => rfl, united .unionLimit fun _ => rfl,
    united .unionOffset fun _ => rfl, kept]
  by_cases picks : q.PicksKeys t <;> cases q.keepsLimit t <;> cases q.keepsUnion t <;> simp [picks, withoutUnion]

theorem mem_restrictions {q : Query} {restriction : Restriction} : restriction ∈ q.restrictions ↔
    match restriction with
    | .condition p => p ∈ q.wheres
    | .join j => j ∈ q.joins
    | .limit n => q.limit = some n
    | .offset n => q.offset = some n
    | .having p => p ∈ q.havings
    | .groupLimit g => q.groupLimit = some g
    | .union u => u ∈ q.unions
    | .unionLimit n => q.unionLimit = some n
    | .unionOffset n => q.unionOffset = some n := by
  cases restriction <;> simp [restrictions]

end Query

namespace Target

theorem limitWord_mem (t : Target) (n : UInt64) (offset : Option UInt64) :
    limitWord n ∈ t.limitAndOffset (some n) offset := by
  cases offset <;> simp [limitAndOffset]

theorem offsetWord_mem (t : Target) (limit : Option UInt64) (n : UInt64) :
    offsetWord n ∈ t.limitAndOffset limit (some n) := by
  cases limit <;> simp [limitAndOffset]

theorem paging_of_picksKeys {t : Target} {q : Query} (picks : q.PicksKeys t) :
    t.dialect ≠ .sqlServer ∧ (∀ q : Query, t.queryPaging q = t.limitAndOffset q.limit q.offset) ∧
      ∀ q : Query, t.unionPaging q = t.limitAndOffset q.unionLimit q.unionOffset := by
  rcases picks.1 with dialect | dialect <;> simp [queryPaging, unionPaging, dialect]

theorem rowRange_eq (t : Target) (g : GroupLimit) (offset : Option UInt64) :
    t.rowRange g offset = t.lastRowTest g offset ++
      (match offset with
        | none => ""
        | some n => " AND " ++ t.skippedRowTest n) ++
      (" ORDER BY " ++ t.dialect.quoteName "group_row") := by
  cases offset <;> simp only [rowRange, lastRowTest, skippedRowTest, String.append_assoc]

theorem lastRowTest_standsIn (t : Target) (g : GroupLimit) (offset : Option UInt64) :
    StandsIn (t.lastRowTest g offset) (t.rowRange g offset) := by
  rw [rowRange_eq]
  apply StandsIn.before _ (breaks_chars (.inl rfl) _)
  cases offset with
  | none => exact (StandsIn.refl _).before breaks_empty
  | some n => exact (StandsIn.refl _).before (breaks_chars (.inl rfl) _)

theorem skippedRowTest_standsIn (t : Target) (g : GroupLimit) (n : UInt64) :
    StandsIn (t.skippedRowTest n) (t.rowRange g (some n)) := by
  rw [rowRange_eq]
  apply StandsIn.before _ (breaks_chars (.inl rfl) _)
  exact ((StandsIn.refl _).after " AND ").after _

end Target

theorem Restriction.Rendered.within {t : Target} {q : Query} {restriction : Restriction} {part whole : String}
    (rendered : restriction.Rendered t q part) (stands : StandsIn part whole) : restriction.Rendered t q whole := by
  cases restriction with
  | condition p | join j | having p | union u =>
    obtain ⟨sql, compiled, inPart⟩ := rendered
    exact ⟨sql, compiled, inPart.trans stands⟩
  | limit n | offset n | groupLimit g | unionLimit n | unionOffset n => exact StandsIn.trans rendered stands

namespace Query

variable {t : Target} {q : Query}

theorem condition_rendered {wheres : Sql} (compiled : q.wheresSql t = .ok wheres) {p : Predicate}
    (member : p ∈ q.wheres) : (Restriction.condition p).Rendered t q wheres.text := by
  obtain ⟨tests, found, text⟩ := Target.clauseAfter_ok compiled (List.ne_nil_of_mem member)
  obtain ⟨test, tested, inTests⟩ := Clause.predicate_standsIn member found
  exact ⟨test, tested, text ▸ inTests.after _⟩

theorem join_rendered {joins : Sql} (compiled : q.joinsSql t = .ok joins) {j : Join} (member : j ∈ q.joins) :
    (Restriction.join j).Rendered t q joins.text := by
  obtain ⟨sqls, found, rfl⟩ := ok_of_map compiled
  exact Join.standsIn member found (Sql.join_inOrder (.inl rfl) sqls)

theorem limit_rendered (picks : q.PicksKeys t) {p : Parts} {s : Sql} (compiled : t.rows q p = .ok s) {n : UInt64}
    (limit : q.limit = some n) : (Restriction.limit n).Rendered t q s.text := by
  obtain ⟨other, paging, -⟩ := Target.paging_of_picksKeys picks
  have word (offset : Option UInt64) : Target.limitWord n ∈ t.queryPaging { q with offset } := by
    rw [paging, limit]
    exact t.limitWord_mem n offset
  simp only [Restriction.Rendered, if_neg other]
  cases limited : q.groupLimit with
  | none => exact (Target.freeRows_standIn limited compiled).1.2 _ (word q.offset)
  | some g =>
    simp only [Target.rows, limited] at compiled
    exact (Target.limitedGroups_standIn compiled).1.2 _ (word none)

theorem offset_rendered (picks : q.PicksKeys t) {p : Parts} {s : Sql} (compiled : t.rows q p = .ok s) {n : UInt64}
    (offset : q.offset = some n) : (Restriction.offset n).Rendered t q s.text := by
  obtain ⟨-, paging, -⟩ := Target.paging_of_picksKeys picks
  cases limited : q.groupLimit with
  | none =>
    simp only [Restriction.Rendered, limited, Option.isSome_none, Bool.false_eq_true, if_false]
    apply (Target.freeRows_standIn limited compiled).1.2
    rw [paging, offset]
    exact t.offsetWord_mem q.limit n
  | some g =>
    -- rows of limited groups are counted off by their numbers
    simp only [Target.rows, limited] at compiled
    simp only [Restriction.Rendered, limited, Option.isSome_some, if_true]
    have inRange := t.skippedRowTest_standsIn g n
    rw [← offset] at inRange
    exact inRange.trans (Target.limitedGroups_standIn compiled).2

theorem union_rendered (kept : q.keepsUnion t) {s : Sql} (compiled : t.rows q (q.parts t) = .ok s) :
    (∀ u ∈ q.unions, (Restriction.union u).Rendered t q s.text) ∧
      ∀ word ∈ t.limitAndOffset q.unionLimit q.unionOffset, StandsIn word s.text := by
  obtain ⟨picks, free, some⟩ := of_decide_eq_true kept
  obtain ⟨-, -, paging⟩ := Target.paging_of_picksKeys picks
  obtain ⟨members, each, inOrder⟩ := writesUnion_of_rows (Option.isNone_iff_eq_none.mp free) (by simpa using some)
    compiled
  refine ⟨fun u member => ?_, fun word member => inOrder.standsIn (List.mem_append_right _ ?_)⟩
  · obtain ⟨sql, inMembers, found⟩ := exists_of_forall₂ each member
    exact ⟨sql, found, inOrder.standsIn (List.mem_append_left _ (List.mem_map_of_mem inMembers))⟩
  · rw [← paging] at member
    exact List.mem_append_right _ member

theorem rows_rendered (picks : q.PicksKeys t) {s : Sql} (compiled : t.rows q (q.parts t) = .ok s)
    {restriction : Restriction} (member : restriction ∈ q.restrictions) (expressed : q.expresses t restriction) :
    restriction.Rendered t q s.text := by
  have parts := Target.rows_standIn compiled
  rw [mem_restrictions] at member
  cases restriction with
  | condition p =>
    obtain ⟨clause, compiled, inRows⟩ := parts.wheres (List.ne_nil_of_mem member)
    obtain ⟨test, tested, inClause⟩ := Clause.predicate_standsIn member compiled
    exact ⟨test, tested, (inClause.after "WHERE ").trans inRows⟩
  | having p =>
    obtain ⟨clause, compiled, inRows⟩ := parts.havings (List.ne_nil_of_mem member)
    obtain ⟨test, tested, inClause⟩ := Clause.predicate_standsIn member compiled
    exact ⟨test, tested, (inClause.after "HAVING ").trans inRows⟩
  | join j =>
    obtain ⟨joins, compiled, order⟩ := parts.joins
    exact Join.standsIn member compiled order
  | limit n => exact limit_rendered picks compiled member
  | offset n => exact offset_rendered picks compiled member
  | groupLimit g =>
    have limited : q.groupLimit = some g := member
    simp only [Target.rows, limited] at compiled
    exact (t.lastRowTest_standsIn g q.offset).trans (Target.limitedGroups_standIn compiled).2
  | union u => exact (union_rendered expressed compiled).1 u member
  | unionLimit n =>
    have limit : q.unionLimit = some n := member
    exact (union_rendered expressed compiled).2 _ (limit ▸ t.limitWord_mem n q.unionOffset)
  | unionOffset n =>
    have offset : q.unionOffset = some n := member
    exact (union_rendered expressed compiled).2 _ (offset ▸ t.offsetWord_mem q.unionLimit n)

theorem keyTest_rendered (picks : q.PicksKeys t) {table key : String} {test : Sql}
    (compiled : q.keyTest t table key = .ok test) {restriction : Restriction} (member : restriction ∈ q.restrictions)
    (expressed : q.expresses t restriction) : restriction.Rendered t q test.text := by
  obtain ⟨rows, found, rfl⟩ := ok_of_map compiled
  rw [sql_eq_assemble] at found
  obtain ⟨aggregate, inner, -, found, inRows⟩ := Target.rows_of_assemble found
  have rendered := rows_rendered (q := { q with columns := _, aggregate }) picks found member expressed
  exact rendered.within (inRows.trans (Sql.standsIn_between _ rows (.inr (.inl rfl))))

end Query

end SqlCompiler
