import SqlCompiler.Proofs.Placement.LimitedChanges
import SqlCompiler.Proofs.Retention.Nested

namespace SqlCompiler

namespace Query

/-- A form that a dialect takes for the rows of a query: the statement with this head. -/
inductive ChangeForm (t : Target) (q : Query) (head : Sql) : Sql → Prop
  | plain {wheres : Sql} (plain : q.isPlainTarget) (tested : q.wheresSql t = .ok wheres) :
    q.ChangeForm t head (.concat [head, wheres])
  | keyed {table key : String} {test : Sql} (picks : q.PicksKeys t) (tested : q.keyTest t table key = .ok test) :
    q.ChangeForm t head (head ++ " WHERE " ++ test)
  | ordered {wheres : Sql} (dialect : t.dialect = .mysql) (alone : q.joins.isEmpty)
    (tested : q.wheresSql t = .ok wheres) : q.ChangeForm t head (.concat [head, wheres, q.writeOrder t])
  | joined {joins wheres : Sql} {parts : List Sql} (dialect : t.dialect = .mysql) (some : ¬ q.joins.isEmpty)
    (joined : q.joinsSql t = .ok joins) (tested : q.wheresSql t = .ok wheres)
    (written : head ∈ parts ∧ joins ∈ parts ∧ wheres ∈ parts) : q.ChangeForm t head (.concat parts)
  | top (before after : String) {wheres : Sql} (dialect : t.dialect = .sqlServer) (alone : q.joins.isEmpty)
    (word : head.text = before ++ q.topWord ++ after) (tested : q.wheresSql t = .ok wheres) :
    q.ChangeForm t head (.concat [head, wheres])
  | topJoined (before after : String) {joins wheres : Sql} (dialect : t.dialect = .sqlServer)
    (word : head.text = before ++ q.topWord ++ after) (joined : q.joinsSql t = .ok joins)
    (tested : q.wheresSql t = .ok wheres) : q.ChangeForm t head (.concat [head, joins, wheres])

section

variable {t : Target} {q : Query} {assignments s : Sql}

theorem ChangeForm.head_standsIn {head : Sql} (form : q.ChangeForm t head s) : StandsIn head.text s.text := by
  cases form with
  | plain | ordered | top | topJoined => exact Sql.concat_standsIn List.mem_cons_self
  | joined _ _ _ _ written => exact Sql.concat_standsIn written.1
  | keyed =>
    rw [Sql.append_assoc]
    exact Sql.standsIn_left head (Sql.breaks_ofText (.inl rfl) _)

theorem set_standsIn (before : Sql) :
    StandsIn ("SET " ++ assignments.text) (before ++ " SET " ++ assignments).text := by
  have word : " SET " = " " ++ "SET " := rfl
  refine ⟨before.text ++ " ", "", ?_, breaks_empty⟩
  simp only [Sql.text_append, Sql.text_ofText, word, String.append_assoc, String.append_empty]

section

variable (picker : t.dialect = .postgres ∨ t.dialect = .sqlite)
include picker

theorem pickedUpdate_form {key : String}
    (compiled : (if q.isPlainTarget then q.plainUpdate t assignments else q.keyedUpdate t assignments key) = .ok s) :
    ∃ head, StandsIn ("SET " ++ assignments.text) head.text ∧ q.ChangeForm t head s := by
  split at compiled
  · rename_i plain
    obtain ⟨table, -, compiled⟩ := ok_of_bind compiled
    obtain ⟨wheres, tested, rfl⟩ := ok_of_map compiled
    exact ⟨_, set_standsIn _, .plain plain tested⟩
  · rename_i limited
    obtain ⟨table, -, compiled⟩ := ok_of_bind compiled
    obtain ⟨test, tested, rfl⟩ := ok_of_map compiled
    exact ⟨_, set_standsIn _, .keyed ⟨picker, by simpa using limited⟩ tested⟩

theorem pickedDelete_form {key : String}
    (compiled : (if q.isPlainTarget then q.plainDelete t else q.keyedDelete t key) = .ok s) :
    ∃ head, q.ChangeForm t head s := by
  split at compiled
  · rename_i plain
    obtain ⟨table, -, compiled⟩ := ok_of_bind compiled
    obtain ⟨wheres, tested, rfl⟩ := ok_of_map compiled
    exact ⟨_, .plain plain tested⟩
  · rename_i limited
    obtain ⟨table, -, compiled⟩ := ok_of_bind compiled
    obtain ⟨test, tested, rfl⟩ := ok_of_map compiled
    exact ⟨_, .keyed ⟨picker, by simpa using limited⟩ tested⟩

end

theorem mysqlUpdate_form (dialect : t.dialect = .mysql) (compiled : q.mysqlUpdate t assignments = .ok s) :
    ∃ head, StandsIn ("SET " ++ assignments.text) head.text ∧ q.ChangeForm t head s := by
  obtain ⟨table, -, compiled⟩ := ok_of_bind compiled
  split at compiled
  · rename_i alone
    obtain ⟨wheres, tested, rfl⟩ := ok_of_map compiled
    exact ⟨_, set_standsIn _, .ordered dialect alone tested⟩
  · rename_i some
    obtain ⟨joins, joined, compiled⟩ := ok_of_bind compiled
    obtain ⟨wheres, tested, rfl⟩ := ok_of_map compiled
    refine ⟨"SET " ++ assignments, ?_, .joined dialect some joined tested (by simp)⟩
    simpa using StandsIn.refl _

theorem mysqlDelete_form (dialect : t.dialect = .mysql) (compiled : q.mysqlDelete t = .ok s) :
    ∃ head, q.ChangeForm t head s := by
  obtain ⟨table, -, compiled⟩ := ok_of_bind compiled
  split at compiled
  · rename_i alone
    obtain ⟨wheres, tested, rfl⟩ := ok_of_map compiled
    exact ⟨_, .ordered dialect alone tested⟩
  · rename_i some
    obtain ⟨joins, joined, compiled⟩ := ok_of_bind compiled
    obtain ⟨wheres, tested, rfl⟩ := ok_of_map compiled
    exact ⟨"DELETE " ++ t.table (aliasOf table) ++ " FROM " ++ t.table table,
      .joined dialect some joined tested (by simp)⟩

theorem sqlServerUpdate_form (dialect : t.dialect = .sqlServer)
    (compiled : q.sqlServerUpdate t assignments = .ok s) :
    ∃ head, StandsIn ("SET " ++ assignments.text) head.text ∧ q.ChangeForm t head s := by
  obtain ⟨table, -, compiled⟩ := ok_of_bind compiled
  split at compiled
  · rename_i alone
    obtain ⟨wheres, tested, rfl⟩ := ok_of_map compiled
    refine ⟨_, set_standsIn _, .top "UPDATE " (t.table table ++ " SET " ++ assignments.text) dialect alone ?_ tested⟩
    simp only [Sql.text_append, Sql.text_ofText, String.append_assoc]
  · obtain ⟨joins, joined, compiled⟩ := ok_of_bind compiled
    obtain ⟨wheres, tested, rfl⟩ := ok_of_map compiled
    refine ⟨_, ?_, .topJoined "UPDATE "
      (t.table (aliasOf table) ++ " SET " ++ assignments.text ++ " FROM " ++ t.table table) dialect ?_ joined tested⟩
    · rw [Sql.append_assoc _ (Sql.ofText " FROM ")]
      exact (set_standsIn _).trans (Sql.standsIn_left _ (Sql.breaks_ofText (.inl rfl) _))
    · simp only [Sql.text_append, Sql.text_ofText, String.append_assoc]

theorem sqlServerDelete_form (dialect : t.dialect = .sqlServer) (compiled : q.sqlServerDelete t = .ok s) :
    ∃ head, q.ChangeForm t head s := by
  obtain ⟨table, -, compiled⟩ := ok_of_bind compiled
  split at compiled
  · rename_i alone
    obtain ⟨wheres, tested, rfl⟩ := ok_of_map compiled
    refine ⟨_, .top "DELETE " ("FROM " ++ t.table table) dialect alone ?_ tested⟩
    simp only [Sql.text_append, Sql.text_ofText, String.append_assoc]
  · obtain ⟨joins, joined, compiled⟩ := ok_of_bind compiled
    obtain ⟨wheres, tested, rfl⟩ := ok_of_map compiled
    refine ⟨_, .topJoined "DELETE " (t.table (aliasOf table) ++ " FROM " ++ t.table table) dialect ?_ joined tested⟩
    simp only [Sql.text_append, Sql.text_ofText, String.append_assoc]

theorem updateSql_form (compiled : q.updateSql t assignments = .ok s) :
    ∃ head, StandsIn ("SET " ++ assignments.text) head.text ∧ q.ChangeForm t head s := by
  unfold updateSql at compiled
  split at compiled
  next dialect => exact pickedUpdate_form (.inl dialect) compiled
  next dialect => exact pickedUpdate_form (.inr dialect) compiled
  next dialect => exact mysqlUpdate_form dialect compiled
  next dialect => exact sqlServerUpdate_form dialect compiled

theorem deleteSql_form (compiled : q.deleteSql t = .ok s) : ∃ head, q.ChangeForm t head s := by
  unfold deleteSql at compiled
  split at compiled
  next dialect => exact pickedDelete_form (.inl dialect) compiled
  next dialect => exact pickedDelete_form (.inr dialect) compiled
  next dialect => exact mysqlDelete_form dialect compiled
  next dialect => exact sqlServerDelete_form dialect compiled

end

end Query

end SqlCompiler
