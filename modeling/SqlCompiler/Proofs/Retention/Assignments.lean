import Mathlib.Data.List.Nodup
import SqlCompiler.Proofs.Quoting.DottedNames
import SqlCompiler.Proofs.Retention.ChangeForms

namespace SqlCompiler

/-- The column that an entry of a record changes; a place in a document belongs to the column in front of it. -/
def Text.changedColumn (key : String) : String := if hasArrow key then (fieldAndPath key).1 else key

namespace Target

def assignedColumn (t : Target) (key : String) : String :=
  if Text.hasArrow key then t.dotted (Text.fieldAndPath key).1 else t.column key

/-- The text assigns something to the column that the entry changes. -/
def Assigns (t : Target) (key text : String) : Prop := ∃ value, text = t.assignedColumn key ++ " = " ++ value

theorem recordAssignment_assigns (t : Target) (key : String) (value : Operand) :
    t.Assigns key (t.recordAssignment key value).text := by
  unfold recordAssignment Assigns assignedColumn
  split
  · unfold documentAssignment
    rcases Text.fieldAndPath key with ⟨field, path⟩
    simp only
    split
    all_goals exact ⟨_, by simp only [Sql.text_append, Sql.text_ofText, String.append_assoc]; rfl⟩
  · exact ⟨value.sql.text, by simp [assignment]⟩

theorem assignedColumn_eq (t : Target) {key : String} (plain : Text.splitAlias (Text.changedColumn key) = none) :
    t.assignedColumn key = t.dotted (Text.changedColumn key) := by
  unfold assignedColumn Text.changedColumn at *
  split
  · rfl
  · rename_i arrow
    rw [if_neg arrow] at plain
    simp [column, plainColumn, plain, arrow]

theorem assignedColumns_nodup_iff (t : Target) {keys : List String}
    (plain : ∀ key ∈ keys, Text.splitAlias (Text.changedColumn key) = none) :
    (keys.map t.assignedColumn).Nodup ↔ (keys.map Text.changedColumn).Nodup := by
  have columns : keys.map t.assignedColumn = (keys.map Text.changedColumn).map t.dotted := by
    rw [List.map_map]
    exact List.map_congr_left fun key member => t.assignedColumn_eq (plain key member)
  rw [columns]
  refine ⟨List.Nodup.of_map t.dotted, fun nodup => nodup.map_on fun name member name' member' same => ?_⟩
  obtain ⟨key, inKeys, rfl⟩ := List.mem_map.mp member
  obtain ⟨key', inKeys', rfl⟩ := List.mem_map.mp member'
  exact dotted_inj (plain key inKeys) (plain key' inKeys') same

end Target

namespace Query

/-- A statement that changes rows assigns something for every entry of its record, in their order, and no column is
assigned twice exactly if no two entries change places in one column. A name with an alias is no column. -/
theorem columns_assigned {t : Target} {q : Query} {r : Record} {st : Statement} (compiled : q.update t r = .ok st) :
    (∃ assignments, List.Forall₂ t.Assigns r.columns assignments ∧
      StandsIn ("SET " ++ ", ".intercalate assignments) st.sql) ∧
    ((∀ key ∈ r.columns, Text.splitAlias (Text.changedColumn key) = none) →
      ((r.columns.map t.assignedColumn).Nodup ↔ (r.columns.map Text.changedColumn).Nodup)) := by
  refine ⟨?_, t.assignedColumns_nodup_iff⟩
  unfold update at compiled
  split at compiled
  · cases compiled
  · obtain ⟨s, found, finished⟩ := ok_of_bind compiled
    obtain ⟨-, rfl⟩ := Dialect.of_finish finished
    refine ⟨(r.entries.map fun entry => t.recordAssignment entry.1 entry.2).map Sql.text, ?_, ?_⟩
    · rw [Record.columns, List.map_map, List.forall₂_map_left_iff, List.forall₂_map_right_iff, List.forall₂_same]
      exact fun entry _ => t.recordAssignment_assigns entry.1 entry.2
    · rw [← Sql.text_join]
      obtain ⟨head, inHead, form⟩ := updateSql_form found
      exact inHead.trans form.head_standsIn

def staff : Query where
  source := some (.table "staff")

def renamed : Record where
  entries := [("name", .value (.text "Ada")), ("meta->note", .value (.text "once Augusta"))]

theorem renamed_columns_assigned : ∃ st, staff.update { dialect := .postgres } renamed = .ok st ∧
    (∃ assignments, List.Forall₂ (Target.Assigns { dialect := .postgres }) renamed.columns assignments ∧
      StandsIn ("SET " ++ ", ".intercalate assignments) st.sql) ∧
    (renamed.columns.map ({ dialect := .postgres } : Target).assignedColumn).Nodup := by
  obtain ⟨st, compiled, -⟩ : ∃ st, staff.update { dialect := .postgres } renamed = .ok st ∧ true :=
    ok_of_any (fun _ => true) (by decide +kernel)
  obtain ⟨written, once⟩ := columns_assigned compiled
  exact ⟨st, compiled, written, (once (by decide +kernel)).mpr (by decide +kernel)⟩

def twoPlaces : Record where
  entries := [("meta->a", .value (.int 1)), ("meta->b", .value (.int 2))]

/-- The column of the document is assigned twice. -/
theorem twoPlaces_assigned_twice : ∃ st, staff.update { dialect := .sqlite } twoPlaces = .ok st ∧
    st.sql = "UPDATE \"staff\" SET \"meta\" = JSON_SET(\"meta\", '$.\"a\"', ?), " ++
      "\"meta\" = JSON_SET(\"meta\", '$.\"b\"', ?)" ∧
    ¬ (twoPlaces.columns.map ({ dialect := .sqlite } : Target).assignedColumn).Nodup := by
  obtain ⟨st, compiled, same⟩ : ∃ st, staff.update { dialect := .sqlite } twoPlaces = .ok st ∧
      st.sql == "UPDATE \"staff\" SET \"meta\" = JSON_SET(\"meta\", '$.\"a\"', ?), " ++
        "\"meta\" = JSON_SET(\"meta\", '$.\"b\"', ?)" := ok_of_any _ (by decide +kernel)
  exact ⟨st, compiled, eq_of_beq same, by decide +kernel⟩

end Query

end SqlCompiler
