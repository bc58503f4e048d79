import SqlCompiler.Proofs.Retention.ChangeForms
import SqlCompiler.Proofs.Retention.Restrictions

namespace SqlCompiler

namespace Query

/-- Every restriction that a statement that writes says anything of is written in the text. -/
def RendersRestrictions (t : Target) (q : Query) (text : String) : Prop :=
  ∀ restriction ∈ q.restrictions, q.expresses t restriction → restriction.Rendered t q text

section

variable {t : Target} {q : Query} {s : Sql}

theorem concat_renders (direct : ¬ q.PicksKeys t) {parts : List Sql}
    (wheres : ∃ wheres ∈ parts, q.wheresSql t = .ok wheres)
    (joins : q.joins = [] ∨ ∃ joins ∈ parts, q.joinsSql t = .ok joins)
    (limit : ∀ n, q.limit = some n → q.keepsLimit t → ∃ part ∈ parts, (Restriction.limit n).Rendered t q part.text) :
    q.RendersRestrictions t (Sql.concat parts).text := by
  intro restriction member expressed
  rw [mem_restrictions] at member
  cases restriction with
  | condition p =>
    obtain ⟨sql, inParts, compiled⟩ := wheres
    exact (condition_rendered compiled member).within (Sql.concat_standsIn inParts)
  | join j =>
    obtain ⟨sql, inParts, compiled⟩ := joins.resolve_left (List.ne_nil_of_mem member)
    exact (join_rendered compiled member).within (Sql.concat_standsIn inParts)
  | limit n =>
    obtain ⟨part, inParts, rendered⟩ := limit n member expressed
    exact rendered.within (Sql.concat_standsIn inParts)
  | offset n | having p | groupLimit g => exact absurd (of_decide_eq_true expressed) direct
  | union u | unionLimit n | unionOffset n => exact absurd (of_decide_eq_true expressed).1 direct

theorem writeOrder_limit (dialect : t.dialect = .mysql) {n : UInt64} (limit : q.limit = some n) :
    (Restriction.limit n).Rendered t q (q.writeOrder t).text := by
  have word : Sql.ofText (Target.limitWord n) ∈ [t.orderBy q.orders, Sql.ofText (Target.limitWord n)] := by simp
  have inOrder := Sql.concat_standsIn word
  simpa [Restriction.Rendered, dialect, writeOrder, limit] using inOrder

theorem topWord_limit (dialect : t.dialect = .sqlServer) {n : UInt64} (limit : q.limit = some n) {head : Sql}
    {before after : String} (word : head.text = before ++ q.topWord ++ after) :
    (Restriction.limit n).Rendered t q head.text := by
  have closed : ") " ++ after = ")" ++ (" " ++ after) := by rw [← String.append_assoc]; rfl
  simp only [Restriction.Rendered, if_pos dialect]
  refine ⟨before, " " ++ after, ?_, breaks_chars (.inl rfl) _⟩
  simp only [word, topWord, limit, String.append_assoc, closed]

theorem ChangeForm.renders {head : Sql} (form : q.ChangeForm t head s) : q.RendersRestrictions t s.text := by
  cases form with
  | plain plain tested =>
    obtain ⟨joins, limit⟩ : q.joins = [] ∧ q.limit = none := by simpa [isPlainTarget] using plain
    exact concat_renders (by simp [PicksKeys, plain]) ⟨_, by simp, tested⟩ (.inl joins) (by simp [limit])
  | keyed picks tested =>
    intro restriction member expressed
    exact (keyTest_rendered picks tested member expressed).within (Sql.standsIn_right _ _)
  | ordered dialect alone tested =>
    exact concat_renders (by simp [PicksKeys, dialect]) ⟨_, by simp, tested⟩ (.inl (List.isEmpty_iff.mp alone))
      fun n limit _ => ⟨q.writeOrder t, by simp, writeOrder_limit dialect limit⟩
  | joined dialect some joined tested written =>
    -- joins leave no place for a limit
    have lost : q.keepsLimit t = false := by simpa [keepsLimit, dialect] using some
    exact concat_renders (by simp [PicksKeys, dialect]) ⟨_, written.2.2, tested⟩ (.inr ⟨_, written.2.1, joined⟩)
      fun n _ kept => absurd kept (by simp [lost])
  | top before after dialect alone word tested =>
    exact concat_renders (by simp [PicksKeys, dialect]) ⟨_, by simp, tested⟩ (.inl (List.isEmpty_iff.mp alone))
      fun n limit _ => ⟨head, by simp, topWord_limit dialect limit word⟩
  | topJoined before after dialect word joined tested =>
    exact concat_renders (by simp [PicksKeys, dialect]) ⟨_, by simp, tested⟩ (.inr ⟨_, by simp, joined⟩)
      fun n limit _ => ⟨head, by simp, topWord_limit dialect limit word⟩

/-- The queries are the same in all that a statement that writes says of them. -/
structure WritesAlike (t : Target) (q q' : Query) : Prop where
  source : q'.source = q.source
  joins : q'.joins = q.joins
  wheres : q'.wheres = q.wheres
  orders : q'.orders = q.orders
  limit : q.keepsLimit t → q'.limit = q.limit
  keyTest : q.PicksKeys t → ∀ table key, q'.keyTest t table key = q.keyTest t table key

namespace WritesAlike

variable {q' : Query} (alike : WritesAlike t q q')
include alike

theorem targetTable : q'.targetTable = q.targetTable := by rw [Query.targetTable, Query.targetTable, alike.source]

theorem wheresSql : q'.wheresSql t = q.wheresSql t := by rw [Query.wheresSql, Query.wheresSql, alike.wheres]

theorem joinsSql : q'.joinsSql t = q.joinsSql t := by rw [Query.joinsSql, Query.joinsSql, alike.joins]

theorem isPlainTarget (other : t.dialect ≠ .mysql) : q'.isPlainTarget = q.isPlainTarget := by
  have limit := alike.limit (by simp [keepsLimit, other])
  rw [Query.isPlainTarget, Query.isPlainTarget, alike.joins, limit]

theorem topWord (other : t.dialect ≠ .mysql) : q'.topWord = q.topWord := by
  have limit := alike.limit (by simp [keepsLimit, other])
  rw [Query.topWord, Query.topWord, limit]

theorem writeOrder (alone : q.joins.isEmpty) : q'.writeOrder t = q.writeOrder t := by
  have limit := alike.limit (by simp [keepsLimit, alone])
  rw [Query.writeOrder, Query.writeOrder, alike.orders, limit]

theorem picked (picker : t.dialect = .postgres ∨ t.dialect = .sqlite) {plain plain' keyed keyed' : Except Error Sql}
    (samePlain : plain' = plain) (sameKeyed : q.PicksKeys t → keyed' = keyed) :
    (if q'.isPlainTarget then plain' else keyed') = if q.isPlainTarget then plain else keyed := by
  rw [alike.isPlainTarget (by rcases picker with dialect | dialect <;> simp [dialect])]
  split
  · exact samePlain
  · rename_i limited
    exact sameKeyed ⟨picker, by simpa using limited⟩

theorem updateSql (assignments : Sql) : q'.updateSql t assignments = q.updateSql t assignments := by
  have plain : q'.plainUpdate t assignments = q.plainUpdate t assignments := by
    simp only [plainUpdate, alike.targetTable, alike.wheresSql]
  have keyed (key : String) (picks : q.PicksKeys t) :
      q'.keyedUpdate t assignments key = q.keyedUpdate t assignments key := by
    simp only [keyedUpdate, alike.targetTable, alike.keyTest picks]
  cases dialect : t.dialect with
  | postgres => simpa only [Query.updateSql, dialect] using alike.picked (.inl dialect) plain (keyed "ctid")
  | sqlite => simpa only [Query.updateSql, dialect] using alike.picked (.inr dialect) plain (keyed "rowid")
  | mysql =>
    simp only [Query.updateSql, dialect, mysqlUpdate, alike.targetTable, alike.wheresSql, alike.joinsSql, alike.joins]
    cases alone : q.joins.isEmpty with
    | true => rw [alike.writeOrder alone]
    | false => rfl
  | sqlServer =>
    simp only [Query.updateSql, dialect, sqlServerUpdate, alike.targetTable, alike.wheresSql, alike.joinsSql,
      alike.joins, alike.topWord (by simp [dialect])]

theorem deleteSql : q'.deleteSql t = q.deleteSql t := by
  have plain : q'.plainDelete t = q.plainDelete t := by
    simp only [plainDelete, alike.targetTable, alike.wheresSql]
  have keyed (key : String) (picks : q.PicksKeys t) : q'.keyedDelete t key = q.keyedDelete t key := by
    simp only [keyedDelete, alike.targetTable, alike.keyTest picks]
  cases dialect : t.dialect with
  | postgres => simpa only [Query.deleteSql, dialect] using alike.picked (.inl dialect) plain (keyed "ctid")
  | sqlite => simpa only [Query.deleteSql, dialect] using alike.picked (.inr dialect) plain (keyed "rowid")
  | mysql =>
    simp only [Query.deleteSql, dialect, mysqlDelete, alike.targetTable, alike.wheresSql, alike.joinsSql, alike.joins]
    cases alone : q.joins.isEmpty with
    | true => rw [alike.writeOrder alone]
    | false => rfl
  | sqlServer =>
    simp only [Query.deleteSql, dialect, sqlServerDelete, alike.targetTable, alike.wheresSql, alike.joinsSql,
      alike.joins, alike.topWord (by simp [dialect])]

end WritesAlike

theorem kept_alike (t : Target) (q : Query) : WritesAlike t q (q.kept t) where
  source := by cases united : q.keepsUnion t <;> simp only [kept, united] <;> rfl
  joins := rfl
  wheres := rfl
  orders := by cases united : q.keepsUnion t <;> simp only [kept, united] <;> rfl
  limit keeps := if_pos keeps
  keyTest picks table key := by
    have limit : q.keepsLimit t := by
      rcases picks.1 with dialect | dialect <;> simp [keepsLimit, dialect]
    cases united : q.keepsUnion t with
    | true => simp only [keyTest, kept, picks, limit, united, if_true]
    | false =>
      -- the union is lost already in the query that picks the keys
      have lost : q.groupLimit.isSome ∨ q.unions = [] := by
        have either := of_decide_eq_false united
        simp only [picks, true_and, not_and, not_not, List.isEmpty_iff, Option.isNone_iff_eq_none] at either
        cases limited : q.groupLimit with
        | some g => exact .inl rfl
        | none => exact .inr (either limited)
      have same := sql_withoutUnion (t := t)
        (q := { q with columns := [.column (aliasOf table ++ "." ++ key)], aggregate := none }) lost
      simp only [keyTest, kept, picks, limit, united, if_true, same]
      rfl

/-- The statements that change and delete the rows of a query write every restriction that the query expresses in the
dialect, and their SQL is that of the query with no other restrictions. -/
theorem changes_restricted (t : Target) (q : Query) :
    (∀ r st, q.update t r = .ok st → q.RendersRestrictions t st.sql) ∧
      (∀ st, q.delete t = .ok st → q.RendersRestrictions t st.sql) ∧
      (q.kept t).restrictions = q.restrictions.filter (q.expresses t) ∧
      (∀ assignments, q.updateSql t assignments = (q.kept t).updateSql t assignments) ∧
      q.deleteSql t = (q.kept t).deleteSql t := by
  refine ⟨fun r st compiled => ?_, fun st compiled => ?_, restrictions_kept t q,
    fun assignments => ((kept_alike t q).updateSql assignments).symm, (kept_alike t q).deleteSql.symm⟩
  · unfold update at compiled
    split at compiled
    · cases compiled
    · obtain ⟨s, found, finished⟩ := ok_of_bind compiled
      obtain ⟨-, rfl⟩ := Dialect.of_finish finished
      obtain ⟨head, -, form⟩ := updateSql_form found
      exact form.renders
  · obtain ⟨s, found, finished⟩ := ok_of_bind compiled
    obtain ⟨-, rfl⟩ := Dialect.of_finish finished
    obtain ⟨head, form⟩ := deleteSql_form found
    exact form.renders

end

def housed : Query where
  source := some (.table "staff")
  joins := [⟨.inner, .table "rooms", [⟨.compareColumns "room" .eq "rooms.id", .and, false⟩]⟩]
  wheres := [⟨.raw "north" [], .and, false⟩]
  limit := some 4
  offset := some 1

/-- Postgres picks the rows by their keys and leaves out nothing. -/
theorem housed_restricted : ∃ st, housed.delete { dialect := .postgres } = .ok st ∧
    ∀ restriction ∈ housed.restrictions, restriction.Rendered { dialect := .postgres } housed st.sql := by
  obtain ⟨st, compiled, -⟩ : ∃ st, housed.delete { dialect := .postgres } = .ok st ∧ true :=
    ok_of_any (fun _ => true) (by decide +kernel)
  have rendered := (changes_restricted { dialect := .postgres } housed).2.1 st compiled
  refine ⟨st, compiled, fun restriction member => rendered restriction member ?_⟩
  have all : ∀ restriction ∈ housed.restrictions, housed.expresses { dialect := .postgres } restriction := by
    simp [restrictions, housed, expresses, keepsLimit, PicksKeys, isPlainTarget]
  exact all restriction member

def allButFive : Query where
  source := some (.table "staff")
  offset := some 5

/-- All of the staff are deleted, and none are passed over. -/
theorem allButFive_deletes_all : ∃ st, allButFive.delete { dialect := .postgres } = .ok st ∧
    Restriction.offset 5 ∈ allButFive.restrictions ∧
    ¬ (Restriction.offset 5).Rendered { dialect := .postgres } allButFive st.sql := by
  obtain ⟨st, compiled, absent⟩ : ∃ st, allButFive.delete { dialect := .postgres } = .ok st ∧
      st.sql.toList.all (· ≠ '5') := ok_of_any _ (by decide +kernel)
  have offset : '5' ∈ "OFFSET 5".toList := by decide +kernel
  exact ⟨st, compiled, by simp [restrictions, allButFive], not_standsIn absent offset⟩

end Query

end SqlCompiler
