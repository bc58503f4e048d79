import SqlCompiler.Proofs.Erasure.Queries
import SqlCompiler.Write.Change

namespace SqlCompiler

def Values.erase (v : Values) : Values where
  columns := v.columns
  rows := v.rows.map fun row => row.map Operand.erase
  widths := by
    intro row member
    obtain ⟨old, oldMember, rfl⟩ := List.mem_map.mp member
    rw [List.length_map]
    exact v.widths old oldMember

def Replacement.erase : Replacement → Replacement
  | .inserted column => .inserted column
  | .given column value => .given column value.erase

def Upsert.erase (u : Upsert) : Upsert where
  values := u.values.erase
  uniqueBy := u.uniqueBy
  update := u.update.map fun replacements => replacements.map Replacement.erase

theorem Values.length_bindings_erase (v : Values) : v.erase.bindings.length = v.bindings.length :=
  length_flatMap_erase (fun row => length_flatMap_erase Operand.length_bindings_erase row) v.rows

theorem Replacement.length_bindings_erase (r : Replacement) : r.erase.bindings.length = r.bindings.length := by
  cases r with
  | inserted column => rfl
  | given column value => exact value.length_bindings_erase

theorem Upsert.replacements_erase (u : Upsert) : u.erase.replacements = u.replacements.map Replacement.erase := by
  obtain ⟨values, uniqueBy, update⟩ := u
  cases update with
  | some replacements => rfl
  | none =>
    rw [replacements, replacements, List.map_map]
    rfl

theorem Upsert.length_bindings_erase (u : Upsert) : u.erase.bindings.length = u.bindings.length := by
  have rows : u.erase.values.bindings.length = u.values.bindings.length := u.values.length_bindings_erase
  have replaced := length_flatMap_erase Replacement.length_bindings_erase u.replacements
  rw [bindings, bindings, replacements_erase, List.length_append, List.length_append, rows, replaced]

namespace Target

variable (t : Target)

theorem rowsOf_text (rows : List (List Operand)) :
    (Sql.join ", " ((rows.map fun row => row.map Operand.erase).map rowOf)).SameText
      (Sql.join ", " (rows.map rowOf)) := by
  apply Sql.SameTexts.join
  simp only [Sql.SameTexts, rowOf, List.map_map, Function.comp_def, Sql.text_append, parameters_text_erase]

theorem insertText_text (verb table : String) (v : Values) :
    (t.insertText verb table v.erase).SameText (t.insertText verb table v) := by
  unfold insertText
  by_cases nothing : v.isEmpty
  · have erased : v.erase.isEmpty := nothing
    rw [if_pos nothing, if_pos erased]
    rfl
  · have erased : ¬ v.erase.isEmpty := nothing
    rw [if_neg nothing, if_neg erased]
    exact (rowsOf_text v.rows).after _

theorem replacement_text (inserted : String → String) (r : Replacement) :
    (t.replacement inserted r.erase).SameText (t.replacement inserted r) := by
  cases r with
  | inserted column => rfl
  | given column value => exact Sql.SameText.after value.text_erase _

theorem replacements_text (inserted : String → String) (u : Upsert) :
    (t.replacements inserted u.erase.replacements).SameText (t.replacements inserted u.replacements) := by
  apply Sql.SameTexts.join
  rw [Sql.SameTexts, Upsert.replacements_erase, List.map_map, List.map_map, List.map_map]
  apply List.map_congr_left
  intro r member
  exact t.replacement_text inserted r

end Target

/-- The same fragment, or values of one constructor. -/
inductive Operand.SameKind : Operand → Operand → Prop
  | value {v v' : Value} (same : v.ctorIdx = v'.ctorIdx) : SameKind (.value v) (.value v')
  | raw (sql : String) : SameKind (.raw sql) (.raw sql)

def SameEntry (entry entry' : String × Operand) : Prop := entry.1 = entry'.1 ∧ entry.2.SameKind entry'.2

/-- Records for the same columns in the same order whose values have the same constructors. -/
def Record.SameKinds (r r' : Record) : Prop := List.Forall₂ SameEntry r.entries r'.entries

theorem Record.SameKinds.refl (r : Record) : r.SameKinds r := by
  apply List.forall₂_same.mpr
  intro entry member
  refine ⟨rfl, ?_⟩
  cases entry.2 with
  | value v => exact .value rfl
  | raw sql => exact .raw sql

theorem Record.SameKinds.isEmpty {r r' : Record} (same : r.SameKinds r') : r.isEmpty = r'.isEmpty := by
  obtain ⟨entries, _⟩ := r
  obtain ⟨entries', _⟩ := r'
  cases same with
  | nil => rfl
  | cons head tail => rfl

namespace Target

variable (t : Target)

theorem storesAsDocument_of_ctorIdx {v v' : Value} (same : v.ctorIdx = v'.ctorIdx) :
    t.storesAsDocument v = t.storesAsDocument v' := by
  cases v <;> cases v' <;> first | rfl | nomatch same

theorem storedSql_text {value value' : Operand} (same : value.SameKind value') :
    (t.storedSql value).SameText (t.storedSql value') := by
  cases same with
  | raw sql => rfl
  | value same =>
    unfold storedSql
    simp only [t.storesAsDocument_of_ctorIdx same]
    split
    · split <;> simp [Sql.SameText]
    · rfl

theorem documentAssignment_text (column : String) {value value' : Operand} (same : value.SameKind value') :
    (t.documentAssignment column value).SameText (t.documentAssignment column value') := by
  have stored := t.storedSql_text same
  unfold documentAssignment
  simp only
  split <;> exact (stored.after _).before _

theorem recordAssignment_text (column : String) {value value' : Operand} (same : value.SameKind value') :
    (t.recordAssignment column value).SameText (t.recordAssignment column value') := by
  unfold recordAssignment
  split
  · exact t.documentAssignment_text column same
  · cases same with
    | raw sql => rfl
    | value same => exact Sql.SameText.after rfl _

theorem recordAssignments_text {r r' : Record} (same : r.SameKinds r') :
    (t.recordAssignments r).SameText (t.recordAssignments r') := by
  have each (entry entry' : String × Operand) (one : SameEntry entry entry') :
      (t.recordAssignment entry.1 entry.2).SameText (t.recordAssignment entry'.1 entry'.2) := by
    rw [← one.1]
    exact t.recordAssignment_text entry.1 one.2
  exact (Sql.SameTexts.map each same).join ", "

theorem length_assigned (column : String) {value value' : Operand} (same : value.SameKind value') :
    (t.assigned column value).length = (t.assigned column value').length := by
  cases same with
  | value same => rfl
  | raw sql => rfl

theorem length_assignedValues {r r' : Record} (same : r.SameKinds r') :
    (t.assignedValues r).length = (t.assignedValues r').length := by
  have each (entry entry' : String × Operand) (one : SameEntry entry entry') :
      (t.assigned entry.1 entry.2).length = (t.assigned entry'.1 entry'.2).length := by
    rw [← one.1]
    exact t.length_assigned entry.1 one.2
  exact length_flatMap_related each same

end Target

end SqlCompiler
