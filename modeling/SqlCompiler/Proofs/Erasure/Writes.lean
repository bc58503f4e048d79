import SqlCompiler.Proofs.Erasure.Rows

namespace SqlCompiler

namespace Query

variable (t : Target) (q : Query)

theorem targetTable_erase : q.erase.targetTable = q.targetTable := by
  unfold targetTable
  rw [erase_source]
  cases q.source with
  | none => rfl
  | some source => cases source <;> rfl

theorem isPlainTarget_erase : q.erase.isPlainTarget = q.isPlainTarget := by
  rw [isPlainTarget, isPlainTarget, erase_joins, isEmpty_eraseJoins, erase_limit]

theorem topWord_erase : q.erase.topWord = q.topWord := by
  rw [topWord, topWord, erase_limit]

theorem unboundParts_erase : q.erase.unboundParts t = q.unboundParts t := by
  unfold unboundParts
  rw [isPlainTarget_erase, erase_joins, isEmpty_eraseJoins]

theorem writeOrder_text : (q.erase.writeOrder t).SameText (q.writeOrder t) := by
  apply Sql.SameTexts.concat
  rw [erase_orders, erase_limit]
  exact .cons (t.orderBy_erase q.orders) (.cons rfl .nil)

theorem wheresSql_agree : Agree Sql.SameText (q.erase.wheresSql t) (q.wheresSql t) := by
  unfold wheresSql
  rw [erase_wheres]
  apply clauseAfter_agree
  exact (predicateSqls_erase t q.wheres).map fun _ _ tests => joinConditions_text tests

theorem joinsSql_agree : Agree Sql.SameText (q.erase.joinsSql t) (q.joinsSql t) := by
  unfold joinsSql
  rw [erase_joins]
  exact (joinSqls_erase t q.joins).map fun _ _ texts => texts.join " "

theorem keyTest_agree (table key : String) :
    Agree Sql.SameText (q.erase.keyTest t table key) (q.keyTest t table key) := by
  have picked : ({ q.erase with columns := [.column (aliasOf table ++ "." ++ key)], aggregate := none } : Query) =
      ({ q with columns := [.column (aliasOf table ++ "." ++ key)], aggregate := none } : Query).erase := by
    cases q
    rfl
  unfold keyTest
  simp only [picked]
  exact (Query.sql_erase t _).map fun _ _ text => (text.after _).before _

theorem agree_targetTable {next next' : String → Except Error Sql}
    (agree : ∀ table, Agree Sql.SameText (next table) (next' table)) :
    Agree Sql.SameText (q.erase.targetTable >>= next) (q.targetTable >>= next') := by
  rw [targetTable_erase]
  apply (Agree.refl (R := Eq) (fun _ => rfl) q.targetTable).bind
  rintro table _ rfl
  exact agree table

theorem wheres_agree {head head' : Sql} (first : head.SameText head') {tail tail' : List Sql}
    (last : Sql.SameTexts tail tail') :
    Agree Sql.SameText (q.erase.wheresSql t >>= fun wheres => pure (.concat (head :: wheres :: tail)))
      (q.wheresSql t >>= fun wheres => pure (.concat (head' :: wheres :: tail'))) := by
  apply (q.wheresSql_agree t).map
  intro wheres wheres' same
  exact Sql.SameTexts.concat (.cons first (.cons same last))

theorem joins_agree {head head' : Sql} (first : head.SameText head') {middle middle' : List Sql}
    (between : Sql.SameTexts middle middle') :
    Agree Sql.SameText
      (q.erase.joinsSql t >>= fun joins => q.erase.wheresSql t >>= fun wheres =>
        pure (.concat (head :: joins :: middle ++ [wheres])))
      (q.joinsSql t >>= fun joins => q.wheresSql t >>= fun wheres =>
        pure (.concat (head' :: joins :: middle' ++ [wheres]))) := by
  apply (q.joinsSql_agree t).bind
  intro joins joins' sameJoins
  apply (q.wheresSql_agree t).map
  intro wheres wheres' sameWheres
  exact Sql.SameTexts.concat ((Sql.SameTexts.cons first (.cons sameJoins between)).append (.cons sameWheres .nil))

section

variable {assignments assignments' : Sql} (text : assignments.SameText assignments')
include text

theorem plainUpdate_agree : Agree Sql.SameText (q.erase.plainUpdate t assignments) (q.plainUpdate t assignments') := by
  apply q.agree_targetTable
  intro table
  exact q.wheres_agree t (text.after _) .nil

theorem keyedUpdate_agree (key : String) :
    Agree Sql.SameText (q.erase.keyedUpdate t assignments key) (q.keyedUpdate t assignments' key) := by
  apply q.agree_targetTable
  intro table
  apply (q.keyTest_agree t table key).map
  intro test test' sameTest
  exact ((text.after _).before _).append sameTest

theorem mysqlUpdate_agree : Agree Sql.SameText (q.erase.mysqlUpdate t assignments) (q.mysqlUpdate t assignments') := by
  apply q.agree_targetTable
  intro table
  rw [erase_joins, isEmpty_eraseJoins]
  split
  · exact q.wheres_agree t (text.after _) (.cons (q.writeOrder_text t) .nil)
  · exact q.joins_agree t rfl (.cons (text.after _) .nil)

theorem sqlServerUpdate_agree :
    Agree Sql.SameText (q.erase.sqlServerUpdate t assignments) (q.sqlServerUpdate t assignments') := by
  apply q.agree_targetTable
  intro table
  rw [erase_joins, isEmpty_eraseJoins, topWord_erase]
  split
  · exact q.wheres_agree t (text.after _) .nil
  · exact q.joins_agree t (((text.after _).before _).before _) .nil

theorem updateSql_agree : Agree Sql.SameText (q.erase.updateSql t assignments) (q.updateSql t assignments') := by
  unfold updateSql
  rw [isPlainTarget_erase]
  split
  · split
    · exact q.plainUpdate_agree t text
    · exact q.keyedUpdate_agree t text "ctid"
  · split
    · exact q.plainUpdate_agree t text
    · exact q.keyedUpdate_agree t text "rowid"
  · exact q.mysqlUpdate_agree t text
  · exact q.sqlServerUpdate_agree t text

end

theorem plainDelete_agree : Agree Sql.SameText (q.erase.plainDelete t) (q.plainDelete t) := by
  apply q.agree_targetTable
  intro table
  exact q.wheres_agree t rfl .nil

theorem keyedDelete_agree (key : String) : Agree Sql.SameText (q.erase.keyedDelete t key) (q.keyedDelete t key) := by
  apply q.agree_targetTable
  intro table
  exact (q.keyTest_agree t table key).map fun _ _ sameTest => sameTest.after _

theorem mysqlDelete_agree : Agree Sql.SameText (q.erase.mysqlDelete t) (q.mysqlDelete t) := by
  apply q.agree_targetTable
  intro table
  rw [erase_joins, isEmpty_eraseJoins]
  split
  · exact q.wheres_agree t rfl (.cons (q.writeOrder_text t) .nil)
  · exact q.joins_agree t rfl .nil

theorem sqlServerDelete_agree : Agree Sql.SameText (q.erase.sqlServerDelete t) (q.sqlServerDelete t) := by
  apply q.agree_targetTable
  intro table
  rw [erase_joins, isEmpty_eraseJoins, topWord_erase]
  split
  · exact q.wheres_agree t rfl .nil
  · exact q.joins_agree t rfl .nil

theorem deleteSql_agree : Agree Sql.SameText (q.erase.deleteSql t) (q.deleteSql t) := by
  unfold deleteSql
  rw [isPlainTarget_erase]
  split
  · split
    · exact q.plainDelete_agree t
    · exact q.keyedDelete_agree t "ctid"
  · split
    · exact q.plainDelete_agree t
    · exact q.keyedDelete_agree t "rowid"
  · exact q.mysqlDelete_agree t
  · exact q.sqlServerDelete_agree t

theorem insertSql_agree (verb : String) (v : Values) :
    Agree Sql.SameText (q.erase.insertSql t verb v.erase) (q.insertSql t verb v) := by
  apply q.agree_targetTable
  intro table
  exact .pure (t.insertText_text verb table v)

theorem duplicateKeySql_agree (u : Upsert) :
    Agree Sql.SameText (q.erase.duplicateKeySql t u.erase) (q.duplicateKeySql t u) := by
  apply (q.insertSql_agree t "INSERT" u.values).bind
  intro rows rows' text
  split
  · exact .pure ((((text.before _).before _).before _).append (t.replacements_text _ u))
  · exact .pure ((text.before _).append (t.replacements_text _ u))

theorem conflictSql_agree (u : Upsert) : Agree Sql.SameText (q.erase.conflictSql t u.erase) (q.conflictSql t u) := by
  apply (q.insertSql_agree t "INSERT" u.values).map
  intro rows rows' text
  exact ((((text.before _).before _).before _)).append (t.replacements_text _ u)

theorem mergeSql_agree (u : Upsert) : Agree Sql.SameText (q.erase.mergeSql t u.erase) (q.mergeSql t u) := by
  unfold mergeSql
  by_cases nothing : u.values.isEmpty
  · have erased : u.erase.values.isEmpty := nothing
    rw [if_pos nothing, if_pos erased]
    exact .error _
  · have erased : ¬ u.erase.values.isEmpty := nothing
    rw [if_neg nothing, if_neg erased]
    apply q.agree_targetTable
    intro table
    have rows : (Sql.join ", " (u.erase.values.rows.map Target.rowOf)).text =
        (Sql.join ", " (u.values.rows.map Target.rowOf)).text := Target.rowsOf_text u.values.rows
    have replaced (inserted : String → String) : (t.replacements inserted u.erase.replacements).text =
        (t.replacements inserted u.replacements).text := t.replacements_text inserted u
    apply Agree.pure
    simp only [Sql.SameText, Sql.text_append, rows, replaced]
    rfl

end Query

end SqlCompiler
