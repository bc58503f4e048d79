import SqlCompiler.Proofs.Versions.Queries
import SqlCompiler.Write.Change

namespace SqlCompiler

/-- Where the first result is reached, the second fails by the count of its values at most, and it is the same if all
else is. -/
structure Follows {α : Type} (same : Prop) (first second : Except Error α) : Prop where
  ok : ∀ a, first = .ok a → ∀ e, second = .error e →
    ∃ placeholders bindings, e = .bindingCount placeholders bindings
  eq : same → second = first

namespace Follows

variable {α β : Type} {same : Prop} {first second : Except Error α}

theorem of_eq (equal : second = first) : Follows same first second where
  ok a reached e failed := by
    rw [equal, reached] at failed
    cases failed
  eq _ := equal

theorem of_lasts (lasts : Lasts same first second) : Follows same first second where
  ok a reached e failed := by
    have ok := lasts.ok (by rw [reached]; rfl)
    rw [failed] at ok
    cases ok
  eq := lasts.eq

theorem finish {d : Dialect} {sql sql' : Except Error α} {text text' : α → String} {values values' : List Value}
    (lasts : Lasts same sql sql') (texts : ∀ a b, (same → b = a) → same → text' b = text a)
    (equal : same → values' = values) :
    Follows same (sql >>= fun a => d.finish (text a) values) (sql' >>= fun b => d.finish (text' b) values') where
  ok st reached e failed := by
    cases sql with
    | error e => cases reached
    | ok a =>
      cases sql' with
      | error e => cases lasts.ok rfl
      | ok b =>
        change d.finish (text' b) values' = .error e at failed
        unfold Dialect.finish at failed
        split at failed
        · cases failed
        · cases failed
          exact ⟨_, _, rfl⟩
  eq all := by
    rw [lasts.eq all, equal all]
    exact bind_congr fun a => by rw [texts a a (fun _ => rfl) all]

theorem map {f : α → β} (follows : Follows same first second) :
    Follows same (first >>= fun a => Pure.pure (f a)) (second >>= fun a => Pure.pure (f a)) where
  ok b reached e failed := by
    cases first with
    | error e => cases reached
    | ok a =>
      cases second with
      | error reason =>
        cases failed
        exact follows.ok a rfl _ rfl
      | ok a' => cases failed
  eq all := by rw [follows.eq all]

end Follows

namespace Target

variable (t : Target) (v : Option Version)

@[simp]
theorem versioned_insertText : (t.versioned v).insertText = t.insertText := by
  funext verb table values
  simp only [insertText, defaultRow, versioned_table, versioned_columns, versioned_dialect]

@[simp]
theorem versioned_assignment : (t.versioned v).assignment = t.assignment := by
  funext column value
  simp only [assignment, versioned_column]

@[simp]
theorem versioned_replacements : (t.versioned v).replacements = t.replacements := by
  have each : (t.versioned v).replacement = t.replacement := by
    funext inserted replacement
    cases replacement <;> simp only [Target.replacement, versioned_column, versioned_assignment]
  funext inserted list
  simp only [replacements, each]

@[simp]
theorem versioned_storedSql : (t.versioned v).storedSql = t.storedSql := rfl

@[simp]
theorem versioned_recordAssignments : (t.versioned v).recordAssignments = t.recordAssignments := by
  funext r
  simp only [recordAssignments, recordAssignment, documentAssignment, versioned_assignment, versioned_dotted,
    versioned_storedSql, versioned_dialect]

@[simp]
theorem versioned_assignedValues : (t.versioned v).assignedValues = t.assignedValues := rfl

end Target

namespace Query

section

variable (t : Target) (v : Option Version) (q : Query)

theorem versioned_insertSql : q.insertSql (t.versioned v) = q.insertSql t := by
  funext verb values
  simp only [insertSql, Target.versioned_insertText]

theorem versioned_insert : q.insert (t.versioned v) = q.insert t := by
  funext values
  simp only [insert, versioned_insertSql, Target.versioned_dialect]

theorem versioned_insertReturningId : q.insertReturningId (t.versioned v) = q.insertReturningId t := by
  funext values key
  simp only [insertReturningId, versioned_insertSql, Target.versioned_column, Target.versioned_dialect]

theorem versioned_conflictSql : q.conflictSql (t.versioned v) = q.conflictSql t := by
  funext u
  simp only [conflictSql, versioned_insertSql, Target.versioned_columns, Target.versioned_replacements,
    Target.versioned_dialect]

theorem versioned_mergeSql : q.mergeSql (t.versioned v) = q.mergeSql t := by
  funext u
  simp only [mergeSql, Target.versioned_table, Target.versioned_column, Target.versioned_columns,
    Target.versioned_replacements, Target.versioned_dialect]

theorem versioned_truncate : q.truncate (t.versioned v) = q.truncate t := by
  simp only [truncate, Target.versioned_table, Target.versioned_dialect, Target.versioned_tablePrefix]

theorem versioned_writeOrder : q.writeOrder (t.versioned v) = q.writeOrder t := by
  simp only [writeOrder, Target.versioned_orderBy]

theorem versioned_unboundParts : q.unboundParts (t.versioned v) = q.unboundParts t := by
  simp only [unboundParts, Target.versioned_dialect]

end

section

variable {t : Target} {v : Option Version} (opens : t.OpensUp v) (q : Query)
include opens

theorem wheresSql_lasts : Lasts (t.gates = (t.versioned v).gates) (q.wheresSql t) (q.wheresSql (t.versioned v)) :=
  clauseAfter_lasts (predicateSqls_lasts opens q.wheres).map_same

theorem joinsSql_lasts : Lasts (t.gates = (t.versioned v).gates) (q.joinsSql t) (q.joinsSql (t.versioned v)) :=
  (joinSqls_lasts opens q.joins).map_same

theorem keyTest_lasts (table key : String) :
    Lasts (t.gates = (t.versioned v).gates) (q.keyTest t table key) (q.keyTest (t.versioned v) table key) :=
  (Query.sql_lasts opens _).map_same

omit opens in
theorem targetTable_lasts {same : Prop} {next next' : String → Except Error Sql}
    (each : ∀ table, Lasts same (next table) (next' table)) :
    Lasts same (q.targetTable >>= next) (q.targetTable >>= next') := by
  cases q.targetTable with
  | error e => exact .of_eq rfl
  | ok table => exact each table

theorem joinsAndWheres_lasts (f : Sql → Sql → Sql) :
    Lasts (t.gates = (t.versioned v).gates) (do let joins ← q.joinsSql t; return f joins (← q.wheresSql t))
      (do let joins ← q.joinsSql (t.versioned v); return f joins (← q.wheresSql (t.versioned v))) :=
  (joinsSql_lasts opens q).bind fun _ _ joins => (wheresSql_lasts opens q).map fun _ _ wheres all => by
    rw [joins all, wheres all]

theorem selectStatement_follows :
    Follows (t.gates = (t.versioned v).gates) (q.selectStatement t) (q.selectStatement (t.versioned v)) :=
  .finish (Query.sql_lasts opens q) (fun _ _ equal all => by rw [equal all]) fun all => by
    rw [← Target.gates_numbersRows, ← Target.gates_numbersRows, all]

theorem hasRowsStatement_follows :
    Follows (t.gates = (t.versioned v).gates) (q.hasRowsStatement t) (q.hasRowsStatement (t.versioned v)) := by
  have text : hasRowsText (t.versioned v) = hasRowsText t := by
    funext rows
    simp only [hasRowsText, Target.versioned_dialect]
  exact .finish (Query.sql_lasts opens q) (fun _ _ equal all => by rw [equal all, text]) fun all => by
    rw [← Target.gates_numbersRows, ← Target.gates_numbersRows, all]

theorem versioned_insertOrIgnore : q.insertOrIgnore (t.versioned v) = q.insertOrIgnore t := by
  funext values
  simp only [insertOrIgnore, versioned_insertSql, Target.versioned_dialect, Target.versioned_unsupported opens]

theorem insertFrom_follows (columns : List String) (source : Query) :
    Follows (t.gates = (t.versioned v).gates) (q.insertFrom t columns source)
      (q.insertFrom (t.versioned v) columns source) := by
  unfold insertFrom
  cases q.targetTable with
  | error e => exact .of_eq rfl
  | ok table =>
    refine .finish (Query.sql_lasts opens source) (fun _ _ equal all => ?_) fun all => ?_
    · simp only [equal all, Target.versioned_table, Target.versioned_columns]
    · rw [← Target.gates_numbersRows, ← Target.gates_numbersRows, all]

omit opens in
theorem duplicateKeySql_lasts (u : Upsert) (mysql : t.dialect = .mysql) :
    Lasts (t.gates = (t.versioned v).gates) (q.duplicateKeySql t u) (q.duplicateKeySql (t.versioned v) u) := by
  have rows : Lasts (t.gates = (t.versioned v).gates) (q.insertSql t "INSERT" u.values)
      (q.insertSql (t.versioned v) "INSERT" u.values) := .of_eq (by rw [versioned_insertSql])
  unfold duplicateKeySql
  apply rows.bind
  intro a b equal
  refine ⟨fun _ => by split <;> rfl, fun all => ?_⟩
  have names : (t.versioned v).namesInsertedRow = t.namesInsertedRow := by
    rw [← Target.gates_namesInsertedRow mysql, all]
    exact (Target.gates_namesInsertedRow (t := t.versioned v) mysql).symm
  simp only [equal all, names, Target.versioned_replacements, Target.versioned_dialect]

omit opens in
theorem upsert_follows (u : Upsert) :
    Follows (t.gates = (t.versioned v).gates) (q.upsert t u) (q.upsert (t.versioned v) u) := by
  unfold upsert
  rw [versioned_insert, versioned_conflictSql, versioned_mergeSql, Target.versioned_dialect]
  split
  · exact .of_eq rfl
  · split
    · exact .of_eq rfl
    · cases dialect : t.dialect with
      | mysql => exact .finish (duplicateKeySql_lasts q u dialect) (fun _ _ equal all => by rw [equal all]) fun _ => rfl
      | postgres => exact .of_eq rfl
      | sqlite => exact .of_eq rfl
      | sqlServer => exact .of_eq rfl

theorem plainUpdate_lasts (assignments : Sql) :
    Lasts (t.gates = (t.versioned v).gates) (q.plainUpdate t assignments)
      (q.plainUpdate (t.versioned v) assignments) := by
  unfold plainUpdate
  rw [Target.versioned_table]
  exact targetTable_lasts q fun _ => (wheresSql_lasts opens q).map_same

theorem keyedUpdate_lasts (assignments : Sql) (key : String) :
    Lasts (t.gates = (t.versioned v).gates) (q.keyedUpdate t assignments key)
      (q.keyedUpdate (t.versioned v) assignments key) := by
  unfold keyedUpdate
  rw [Target.versioned_table]
  exact targetTable_lasts q fun table => (keyTest_lasts opens q table key).map_same

theorem mysqlUpdate_lasts (assignments : Sql) :
    Lasts (t.gates = (t.versioned v).gates) (q.mysqlUpdate t assignments)
      (q.mysqlUpdate (t.versioned v) assignments) := by
  unfold mysqlUpdate
  rw [Target.versioned_table, versioned_writeOrder]
  refine targetTable_lasts q fun table => ?_
  split
  · exact (wheresSql_lasts opens q).map_same
  · exact joinsAndWheres_lasts opens q _

theorem sqlServerUpdate_lasts (assignments : Sql) :
    Lasts (t.gates = (t.versioned v).gates) (q.sqlServerUpdate t assignments)
      (q.sqlServerUpdate (t.versioned v) assignments) := by
  unfold sqlServerUpdate
  rw [Target.versioned_table]
  refine targetTable_lasts q fun table => ?_
  split
  · exact (wheresSql_lasts opens q).map_same
  · exact joinsAndWheres_lasts opens q _

theorem updateSql_lasts (assignments : Sql) :
    Lasts (t.gates = (t.versioned v).gates) (q.updateSql t assignments) (q.updateSql (t.versioned v) assignments) := by
  unfold updateSql
  rw [Target.versioned_dialect]
  split
  · split
    · exact plainUpdate_lasts opens q assignments
    · exact keyedUpdate_lasts opens q assignments "ctid"
  · split
    · exact plainUpdate_lasts opens q assignments
    · exact keyedUpdate_lasts opens q assignments "rowid"
  · exact mysqlUpdate_lasts opens q assignments
  · exact sqlServerUpdate_lasts opens q assignments

theorem update_follows (r : Record) :
    Follows (t.gates = (t.versioned v).gates) (q.update t r) (q.update (t.versioned v) r) := by
  unfold update
  rw [Target.versioned_recordAssignments]
  split
  · exact .of_eq rfl
  · refine .finish (updateSql_lasts opens q _) (fun _ _ equal all => by rw [equal all]) fun all => ?_
    simp only [updateBindings, versioned_unboundParts, Target.versioned_assignedValues, Target.versioned_dialect,
      ← Target.gates_numbersRows, all]

theorem plainDelete_lasts :
    Lasts (t.gates = (t.versioned v).gates) (q.plainDelete t) (q.plainDelete (t.versioned v)) := by
  unfold plainDelete
  rw [Target.versioned_table]
  exact targetTable_lasts q fun _ => (wheresSql_lasts opens q).map_same

theorem keyedDelete_lasts (key : String) :
    Lasts (t.gates = (t.versioned v).gates) (q.keyedDelete t key) (q.keyedDelete (t.versioned v) key) := by
  unfold keyedDelete
  rw [Target.versioned_table]
  exact targetTable_lasts q fun table => (keyTest_lasts opens q table key).map_same

theorem mysqlDelete_lasts :
    Lasts (t.gates = (t.versioned v).gates) (q.mysqlDelete t) (q.mysqlDelete (t.versioned v)) := by
  unfold mysqlDelete
  rw [Target.versioned_table, versioned_writeOrder]
  refine targetTable_lasts q fun table => ?_
  split
  · exact (wheresSql_lasts opens q).map_same
  · exact joinsAndWheres_lasts opens q _

theorem sqlServerDelete_lasts :
    Lasts (t.gates = (t.versioned v).gates) (q.sqlServerDelete t) (q.sqlServerDelete (t.versioned v)) := by
  unfold sqlServerDelete
  rw [Target.versioned_table]
  refine targetTable_lasts q fun table => ?_
  split
  · exact (wheresSql_lasts opens q).map_same
  · exact joinsAndWheres_lasts opens q _

theorem deleteSql_lasts :
    Lasts (t.gates = (t.versioned v).gates) (q.deleteSql t) (q.deleteSql (t.versioned v)) := by
  unfold deleteSql
  rw [Target.versioned_dialect]
  split
  · split
    · exact plainDelete_lasts opens q
    · exact keyedDelete_lasts opens q "ctid"
  · split
    · exact plainDelete_lasts opens q
    · exact keyedDelete_lasts opens q "rowid"
  · exact mysqlDelete_lasts opens q
  · exact sqlServerDelete_lasts opens q

theorem delete_follows : Follows (t.gates = (t.versioned v).gates) (q.delete t) (q.delete (t.versioned v)) := by
  refine .finish (deleteSql_lasts opens q) (fun _ _ equal all => by rw [equal all]) fun all => ?_
  simp only [versioned_unboundParts, ← Target.gates_numbersRows, all]

end

end Query

end SqlCompiler
