import SqlCompiler.Proofs.Erasure.Writes

namespace SqlCompiler

def Statement.SameSql (st st' : Statement) : Prop := st.sql = st'.sql

theorem Agree.sql_eq {first second : Except Error Statement} (agree : Agree Statement.SameSql first second) :
    first.map Statement.sql = second.map Statement.sql := by
  cases agree with
  | ok same => exact congrArg Except.ok same
  | error e => rfl

theorem Dialect.finish_agree (d : Dialect) {text text' : String} (same : text = text') {values values' : List Value}
    (lengths : values.length = values'.length) :
    Agree Statement.SameSql (d.finish text values) (d.finish text' values') := by
  unfold finish
  rw [same, lengths]
  split
  · exact .ok rfl
  · exact .error _

theorem Agree.finish {t : Target} {first second : Except Error Sql} (agree : Agree Sql.SameText first second)
    {values values' : List Value} (lengths : values.length = values'.length) :
    Agree Statement.SameSql (first >>= fun sql => t.dialect.finish sql.text values)
      (second >>= fun sql => t.dialect.finish sql.text values') :=
  agree.bind fun _ _ text => t.dialect.finish_agree text lengths

namespace Query

variable (t : Target) (q : Query)

theorem length_flattenExcept_erase (numbersRows : Bool) (skip : List Bucket) :
    ((q.erase.buckets numbersRows).flattenExcept skip).length = ((q.buckets numbersRows).flattenExcept skip).length :=
  Bindings.length_flatten (q.length_held_erase numbersRows) _

theorem selectStatement_agree : Agree Statement.SameSql (q.erase.selectStatement t) (q.selectStatement t) :=
  (Query.sql_erase t q).finish (q.length_bindings_erase t.numbersRows)

theorem hasRowsText_text {rows rows' : Sql} (text : rows.SameText rows') :
    (hasRowsText t rows).SameText (hasRowsText t rows') := by
  unfold hasRowsText
  split
  · exact ((text.after _).before _).before _
  · exact ((text.after _).before _).before _

theorem hasRowsStatement_agree : Agree Statement.SameSql (q.erase.hasRowsStatement t) (q.hasRowsStatement t) := by
  apply (Query.sql_erase t q).bind
  intro rows rows' text
  exact t.dialect.finish_agree (hasRowsText_text t text) (q.length_bindings_erase t.numbersRows)

theorem insert_agree (v : Values) : Agree Statement.SameSql (q.erase.insert t v.erase) (q.insert t v) :=
  (q.insertSql_agree t "INSERT" v).finish v.length_bindings_erase

theorem upsert_agree (u : Upsert) : Agree Statement.SameSql (q.erase.upsert t u.erase) (q.upsert t u) := by
  have nothing : u.erase.replacements.isEmpty = u.replacements.isEmpty := by
    rw [Upsert.replacements_erase, List.isEmpty_map]
  have unique : u.erase.uniqueBy = u.uniqueBy := rfl
  have lengths := u.length_bindings_erase
  unfold upsert
  rw [nothing, unique]
  split
  · exact q.insert_agree t u.values
  · split
    · exact .error _
    · split
      · exact (q.duplicateKeySql_agree t u).finish lengths
      · exact (q.conflictSql_agree t u).finish lengths
      · exact (q.conflictSql_agree t u).finish lengths
      · exact (q.mergeSql_agree t u).finish lengths

theorem length_updateBindings {r r' : Record} (same : r.SameKinds r') :
    (q.erase.updateBindings t r).length = (q.updateBindings t r').length := by
  have assigned := t.length_assignedValues same
  have joins := q.length_held_erase t.numbersRows .join
  have rest := q.length_flattenExcept_erase t.numbersRows
  unfold updateBindings
  simp only [unboundParts_erase]
  split <;> simp only [List.length_append, assigned, joins, rest]

theorem update_agree {r r' : Record} (same : r.SameKinds r') :
    Agree Statement.SameSql (q.erase.update t r) (q.update t r') := by
  unfold update
  rw [same.isEmpty]
  split
  · exact .error _
  · exact (q.updateSql_agree t (t.recordAssignments_text same)).finish (q.length_updateBindings t same)

theorem delete_agree : Agree Statement.SameSql (q.erase.delete t) (q.delete t) := by
  have lengths := q.length_flattenExcept_erase t.numbersRows (q.unboundParts t)
  unfold delete
  rw [unboundParts_erase]
  exact (q.deleteSql_agree t).finish lengths

/-- Queries that differ in nothing but values are compiled to the same text or fail in the same way, in every
statement; rows may differ in their values too, as long as a record that changes rows has values of the same
constructors. -/
theorem sql_independent_of_values (t : Target) {q q' : Query} (same : q.erase = q'.erase) :
    (q.selectStatement t).map Statement.sql = (q'.selectStatement t).map Statement.sql ∧
      (q.hasRowsStatement t).map Statement.sql = (q'.hasRowsStatement t).map Statement.sql ∧
      (∀ v v' : Values, v.erase = v'.erase →
        (q.insert t v).map Statement.sql = (q'.insert t v').map Statement.sql) ∧
      (∀ u u' : Upsert, u.erase = u'.erase →
        (q.upsert t u).map Statement.sql = (q'.upsert t u').map Statement.sql) ∧
      (∀ r r' : Record, r.SameKinds r' →
        (q.update t r).map Statement.sql = (q'.update t r').map Statement.sql) ∧
      (q.delete t).map Statement.sql = (q'.delete t).map Statement.sql := by
  -- Either query agrees with the erased one, which they share.
  refine ⟨?_, ?_, ?_, ?_, ?_, ?_⟩
  · rw [← (q.selectStatement_agree t).sql_eq, same, (q'.selectStatement_agree t).sql_eq]
  · rw [← (q.hasRowsStatement_agree t).sql_eq, same, (q'.hasRowsStatement_agree t).sql_eq]
  · intro v v' sameRows
    rw [← (q.insert_agree t v).sql_eq, same, sameRows, (q'.insert_agree t v').sql_eq]
  · intro u u' sameRows
    rw [← (q.upsert_agree t u).sql_eq, same, sameRows, (q'.upsert_agree t u').sql_eq]
  · intro r r' kinds
    rw [← (q.update_agree t (.refl r)).sql_eq, same, (q'.update_agree t kinds).sql_eq]
  · rw [← (q.delete_agree t).sql_eq, same, (q'.delete_agree t).sql_eq]

def accountsOf (holder : String) (least : Int64) (settings : Json) (words : String) : Query where
  columns := [.column "number", .raw "coalesce(balance, ?)" [.int least]]
  source := some (.table "accounts")
  wheres := [⟨.compare "holder" .eq (.value (.text holder)), .and, false⟩,
    ⟨.inQuery "region" (.query {
      source := some (.table "regions")
      wheres := [⟨.jsonContains "settings" settings, .and, false⟩] }) false, .and, false⟩,
    ⟨.fullText ["notes"] words {}, .or, false⟩]

def openingFor (holder : String) : Upsert where
  values := { columns := ["holder"], rows := [[.value (.text holder)]] }
  uniqueBy := ["holder"]

def levelOf (level : Int64) (flags : List Value) : Record where
  entries := [("profile->level", .value (.int level)), ("flags", .value (.array flags))]

/-- A holder's name that reads like SQL leaves every text as it is. -/
theorem accountsOf_sql_same :
    let t : Target := { dialect := .mysql }
    let ann := accountsOf "ann" 0 .null "overdrawn"
    let mallory := accountsOf "'; DROP TABLE accounts; --" 7 (.str "?") "' OR 1 = 1"
    let opened := openingFor "ann"
    let injected := openingFor "?'"
    (ann.erase = mallory.erase ∧ opened.values.erase = injected.values.erase ∧ opened.erase = injected.erase ∧
      (levelOf 1 []).SameKinds (levelOf 2 [.null])) ∧
    (ann.selectStatement t).map Statement.sql = (mallory.selectStatement t).map Statement.sql ∧
    (ann.hasRowsStatement t).map Statement.sql = (mallory.hasRowsStatement t).map Statement.sql ∧
    (ann.insert t opened.values).map Statement.sql = (mallory.insert t injected.values).map Statement.sql ∧
    (ann.upsert t opened).map Statement.sql = (mallory.upsert t injected).map Statement.sql ∧
    (ann.update t (levelOf 1 [])).map Statement.sql = (mallory.update t (levelOf 2 [.null])).map Statement.sql ∧
    (ann.delete t).map Statement.sql = (mallory.delete t).map Statement.sql := by
  intro t ann mallory opened injected
  have same : ann.erase = mallory.erase := rfl
  have kinds : (levelOf 1 []).SameKinds (levelOf 2 [.null]) :=
    .cons ⟨rfl, .value rfl⟩ (.cons ⟨rfl, .value rfl⟩ .nil)
  obtain ⟨selected, asked, inserted, upserted, updated, deleted⟩ := sql_independent_of_values t same
  exact ⟨⟨same, rfl, rfl, kinds⟩, selected, asked, inserted _ _ rfl, upserted _ _ rfl, updated _ _ kinds, deleted⟩

end Query

end SqlCompiler
