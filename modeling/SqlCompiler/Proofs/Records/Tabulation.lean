import Mathlib.Data.List.Induction
import Mathlib.Data.List.Perm.Subperm
import SqlCompiler.Write.Rows

namespace SqlCompiler

/-- The value that a column is set to last. -/
def lastSet (calls : List (String × Operand)) (column : String) : Option Operand :=
  (calls.filter fun call => call.1 == column).getLast?.map Prod.snd

def columnsSet (calls : List (String × Operand)) : List String := (calls.map Prod.fst).eraseDups

/-- Calls that set one column stay in their order, and calls that set different columns may change places. -/
def Reordered (calls calls' : List (String × Operand)) : Prop :=
  ∀ column, calls.filter (fun call => call.1 == column) = calls'.filter fun call => call.1 == column

theorem lastSet_append (calls : List (String × Operand)) (column name : String) (value : Operand) :
    lastSet (calls ++ [(column, value)]) name = if name = column then some value else lastSet calls name := by
  by_cases same : name = column
  · simp [lastSet, same]
  · have other : column ≠ name := Ne.symm same
    simp [lastSet, same, other]

theorem Reordered.lastSet_eq {calls calls' : List (String × Operand)} (reordered : Reordered calls calls')
    (column : String) : lastSet calls column = lastSet calls' column := by
  rw [lastSet, lastSet, reordered column]

theorem Reordered.swap (before after : List (String × Operand)) {call call' : String × Operand}
    (different : call.1 ≠ call'.1) :
    Reordered (before ++ call :: call' :: after) (before ++ call' :: call :: after) := by
  intro column
  by_cases first : call.1 = column
  · have second : call'.1 ≠ column := fun same => different (first.trans same.symm)
    simp [first, second]
  · simp [List.filter_cons, first]

theorem find?_setEntry (column name : String) (value : Operand) (entries : List (String × Operand)) :
    ((setEntry column value entries).find? fun entry => entry.1 == name).map Prod.snd =
      if name = column then some value else (entries.find? fun entry => entry.1 == name).map Prod.snd := by
  induction entries with
  | nil =>
    by_cases same : name = column
    · simp [setEntry, same]
    · have other : column ≠ name := Ne.symm same
      simp [setEntry, same, other]
  | cons entry rest ih =>
    obtain ⟨first, old⟩ := entry
    by_cases here : first = column
    · subst here
      by_cases same : name = first
      · simp [setEntry, same]
      · have other : first ≠ name := Ne.symm same
        simp [setEntry, same, other]
    · rw [setEntry, if_neg here]
      by_cases found : first = name
      · have other : name ≠ column := fun same => here (found.trans same)
        simp [found, other]
      · simpa [found] using ih

namespace Record

theorem get?_set (r : Record) (column name : String) (value : Operand) :
    (r.set column value).get? name = if name = column then some value else r.get? name :=
  find?_setEntry column name value r.entries

theorem ofList_append (calls : List (String × Operand)) (column : String) (value : Operand) :
    ofList (calls ++ [(column, value)]) = (ofList calls).set column value := List.foldl_concat ..

theorem get?_ofList (calls : List (String × Operand)) (name : String) :
    (ofList calls).get? name = lastSet calls name := by
  induction calls using List.reverseRecOn with
  | nil => rfl
  | append_singleton calls call ih =>
    obtain ⟨column, value⟩ := call
    rw [ofList_append, get?_set, ih, lastSet_append]

theorem columns_ofList (calls : List (String × Operand)) : (ofList calls).columns = columnsSet calls := by
  induction calls using List.reverseRecOn with
  | nil => rfl
  | append_singleton calls call ih =>
    obtain ⟨column, value⟩ := call
    have keys : ((ofList calls).set column value).columns =
        if column ∈ columnsSet calls then columnsSet calls else columnsSet calls ++ [column] := by
      rw [← ih]
      exact keys_setEntry column value (ofList calls).entries
    have dups : columnsSet (calls ++ [(column, value)]) =
        columnsSet calls ++ ([column].removeAll (calls.map Prod.fst)).eraseDups := by
      rw [columnsSet, List.map_append, List.eraseDups_append]
      rfl
    have known : column ∈ columnsSet calls ↔ column ∈ calls.map Prod.fst := List.mem_eraseDups
    rw [ofList_append, keys, dups]
    by_cases before : column ∈ calls.map Prod.fst
    · rw [if_pos (known.mpr before)]
      simp [List.removeAll, before]
    · rw [if_neg fun member => before (known.mp member)]
      simp [List.removeAll, before, List.eraseDups_cons]

theorem mem_columns_iff (r : Record) (column : String) : column ∈ r.columns ↔ (r.get? column).isSome := by
  simp [columns, get?]

theorem map_get?_columns (r : Record) : r.columns.map r.get? = r.values.map some := by
  have found {entries : List (String × Operand)} (distinct : (entries.map Prod.fst).Nodup) :
      (entries.map Prod.fst).map (fun name => (entries.find? fun entry => entry.1 == name).map Prod.snd) =
        (entries.map Prod.snd).map some := by
    induction entries with
    | nil => rfl
    | cons entry rest ih =>
      obtain ⟨absent, later⟩ := List.nodup_cons.mp distinct
      have skipped : ∀ name ∈ rest.map Prod.fst, entry.1 ≠ name := fun name member same => absent (same ▸ member)
      simp only [List.map_cons, List.find?_cons, beq_self_eq_true, Option.map_some, List.cons.injEq, true_and]
      rw [← ih later]
      refine List.map_congr_left fun name member => ?_
      rw [beq_eq_false_iff_ne.mpr (skipped name member)]
  exact found r.distinct

theorem row?_eq_some_iff {r : Record} {columns : List String} {row : List Operand} :
    r.row? columns = some row ↔ columns.map r.get? = row.map some := by
  induction columns generalizing row with
  | nil => cases row <;> simp [row?]
  | cons column rest ih =>
    cases row with
    | nil => simp only [row?]; split <;> simp
    | cons value row =>
      have later := @ih row
      simp only [row?, List.map_cons, List.cons.injEq, ← later]
      cases r.get? column <;> cases r.row? rest <;> simp

def Fits (r : Record) (columns : List String) : Prop := ∀ column, column ∈ r.columns ↔ column ∈ columns

theorem length_of_fits {r : Record} {columns : List String} (distinct : columns.Nodup) (fits : r.Fits columns) :
    r.length = columns.length := by
  have perm : r.columns.Perm columns := (List.perm_ext_iff_of_nodup r.columns_nodup distinct).mpr fits
  simpa [Record.columns, length] using perm.length_eq

theorem row?_of_fits {r : Record} {columns : List String} (fits : r.Fits columns) :
    ∃ row, r.row? columns = some row := by
  have all : ∀ column ∈ columns, ∃ value, r.get? column = some value := fun column member =>
    Option.isSome_iff_exists.mp ((r.mem_columns_iff column).mp ((fits column).mpr member))
  refine ⟨columns.filterMap r.get?, row?_eq_some_iff.mpr ?_⟩
  clear fits
  induction columns with
  | nil => rfl
  | cons column rest ih =>
    obtain ⟨value, found⟩ := all column (by simp)
    simp [found, ih fun other member => all other (List.mem_cons_of_mem _ member)]

/-- The test by number and by look-ups, which is right because no column stands in a record twice. -/
theorem fits_of_row? {r : Record} {columns : List String} (distinct : columns.Nodup) {row : List Operand}
    (found : r.row? columns = some row) (size : r.length = columns.length) : r.Fits columns := by
  have within : columns ⊆ r.columns := by
    intro column member
    have value : r.get? column ∈ columns.map r.get? := List.mem_map_of_mem member
    rw [row?_eq_some_iff.mp found] at value
    obtain ⟨v, -, same⟩ := List.mem_map.mp value
    exact (r.mem_columns_iff column).mpr (by simp [← same])
  have long : r.columns.length ≤ columns.length := by simpa [Record.columns, length] using Nat.le_of_eq size
  have perm : columns.Perm r.columns := (List.subperm_of_subset distinct within).perm_of_length_le long
  exact fun column => perm.mem_iff.symm

end Record

namespace Values

/-- The table has a row for each record, which holds the values of the record for the columns. -/
structure Holds (v : Values) (columns : List String) (records : List Record) : Prop where
  columns_eq : v.columns = columns
  rows_eq : v.rows.map (List.map some) = records.map fun r => columns.map r.get?

theorem Holds.unique {v w : Values} {columns : List String} {records : List Record} (first : v.Holds columns records)
    (second : w.Holds columns records) : v = w := by
  obtain ⟨vColumns, vRows, vWidths⟩ := v
  obtain ⟨wColumns, wRows, wWidths⟩ := w
  have columns_eq : vColumns = wColumns := first.columns_eq.trans second.columns_eq.symm
  have rows_eq : vRows = wRows := by
    have inner : Function.Injective (List.map (some (α := Operand))) :=
      List.map_injective_iff.mpr fun _ _ => Option.some.inj
    exact List.map_injective_iff.mpr inner (first.rows_eq.trans second.rows_eq.symm)
  subst columns_eq rows_eq
  rfl

theorem add_cases {v : Values} {columns : List String} {records : List Record} (filled : records ≠ [])
    (distinct : columns.Nodup) (holds : v.Holds columns records) (r : Record) :
    (r.Fits columns ∧ ∃ w, v.add r = .ok w ∧ w.Holds columns (records ++ [r])) ∨
      (¬ r.Fits columns ∧ v.add r = .error (.invalid (.columnsDiffer r.columns columns))) := by
  obtain ⟨rfl, rows⟩ := holds
  have some : v.rows ≠ [] := by
    intro none
    rw [none, List.map_nil] at rows
    exact filled (List.map_eq_nil_iff.mp rows.symm)
  rw [add, if_neg (by simpa using some)]
  split
  next row found =>
    by_cases size : r.length = v.columns.length
    · refine .inl ⟨Record.fits_of_row? distinct found size, _, if_pos size, rfl, ?_⟩
      simp [rows, Record.row?_eq_some_iff.mp found]
    · exact .inr ⟨fun fits => size (Record.length_of_fits distinct fits), if_neg size⟩
  next none =>
    refine .inr ⟨fun fits => ?_, rfl⟩
    obtain ⟨row, found⟩ := Record.row?_of_fits fits
    simp [found] at none

theorem foldlM_add_cases {v : Values} {columns : List String} {records : List Record} (filled : records ≠ [])
    (distinct : columns.Nodup) (holds : v.Holds columns records) (rest : List Record) :
    ((∀ r ∈ rest, r.Fits columns) ∧ ∃ w, rest.foldlM add v = .ok w ∧ w.Holds columns (records ++ rest)) ∨
      ∃ r ∈ rest, ¬ r.Fits columns ∧ rest.foldlM add v = .error (.invalid (.columnsDiffer r.columns columns)) := by
  induction rest generalizing v records with
  | nil => exact .inl ⟨by simp, v, rfl, by simpa using holds⟩
  | cons r rest ih =>
    rcases add_cases filled distinct holds r with ⟨fits, next, added, holdsNext⟩ | ⟨misfits, failed⟩
    · rw [List.foldlM_cons, added]
      rcases ih (by simp) holdsNext with ⟨all, w, built, holdsAll⟩ | ⟨other, member, misfits, failed⟩
      · refine .inl ⟨List.forall_mem_cons.mpr ⟨fits, all⟩, w, built, ?_⟩
        simpa using holdsAll
      · exact .inr ⟨other, List.mem_cons_of_mem _ member, misfits, failed⟩
    · refine .inr ⟨r, by simp, misfits, ?_⟩
      rw [List.foldlM_cons, failed]
      rfl

theorem ofRecords_cases (first : Record) (rest : List Record) :
    ((∀ r ∈ rest, r.Fits first.columns) ∧
        ∃ v, ofRecords (first :: rest) = .ok v ∧ v.Holds first.columns (first :: rest)) ∨
      ∃ r ∈ rest, ¬ r.Fits first.columns ∧
        ofRecords (first :: rest) = .error (.invalid (.columnsDiffer r.columns first.columns)) := by
  have holds : Holds ⟨first.columns, [first.values], by simp [Record.columns, Record.values]⟩ first.columns [first] :=
    ⟨rfl, by simp [first.map_get?_columns]⟩
  exact foldlM_add_cases (List.cons_ne_nil first []) first.columns_nodup holds rest

theorem ofRecords_eq_ok_iff {first : Record} {rest : List Record} {v : Values} :
    ofRecords (first :: rest) = .ok v ↔
      (∀ r ∈ rest, r.Fits first.columns) ∧ v.Holds first.columns (first :: rest) := by
  rcases ofRecords_cases first rest with ⟨all, w, built, holds⟩ | ⟨r, member, misfits, failed⟩
  · constructor
    · intro same
      cases built.symm.trans same
      exact ⟨all, holds⟩
    · rintro ⟨-, same⟩
      rw [built, holds.unique same]
  · rw [failed]
    exact ⟨nofun, fun ⟨all, _⟩ => absurd (all r member) misfits⟩

theorem ofRecords_congr {first r r' : Record} {before after : List Record}
    (same : ∀ column, r.get? column = r'.get? column) (v : Values) :
    ofRecords (first :: (before ++ r :: after)) = .ok v ↔ ofRecords (first :: (before ++ r' :: after)) = .ok v := by
  have fits : r.Fits first.columns ↔ r'.Fits first.columns := by simp only [Record.Fits, Record.mem_columns_iff, same]
  have row : first.columns.map r.get? = first.columns.map r'.get? := List.map_congr_left fun column _ => same column
  have holds : v.Holds first.columns (first :: (before ++ r :: after)) ↔
      v.Holds first.columns (first :: (before ++ r' :: after)) := by
    constructor <;> rintro ⟨columns, rows⟩ <;> exact ⟨columns, by simpa [row] using rows⟩
  simp only [ofRecords_eq_ok_iff, List.forall_mem_append, List.forall_mem_cons, fits, holds]

theorem Holds.cell {v : Values} {columns : List String} {records : List Record} (holds : v.Holds columns records)
    {i j : Nat} {r : Record} {column : String} (record : records[i]? = some r) (named : columns[j]? = some column) :
    ∃ row value, v.rows[i]? = some row ∧ row[j]? = some value ∧ r.get? column = some value := by
  have rows := congrArg (·[i]?) holds.rows_eq
  simp only [List.getElem?_map, record, Option.map_some] at rows
  obtain ⟨row, found, cells⟩ := Option.map_eq_some_iff.mp rows
  have cell := congrArg (·[j]?) cells
  simp only [List.getElem?_map, named, Option.map_some] at cell
  obtain ⟨value, inRow, read⟩ := Option.map_eq_some_iff.mp cell
  exact ⟨row, value, found, inRow, read.symm⟩

theorem fits_ofList {first call : List (String × Operand)} :
    (Record.ofList call).Fits (Record.ofList first).columns ↔
      ∀ column, column ∈ call.map Prod.fst ↔ column ∈ first.map Prod.fst := by
  simp only [Record.Fits, Record.columns_ofList, columnsSet, List.mem_eraseDups]

section

variable {calls : List (List (String × Operand))}

theorem ofCalls_succeeds_iff : (∃ v, ofRecords (calls.map Record.ofList) = .ok v) ↔
    ∀ first ∈ calls.head?, ∀ call ∈ calls, ∀ column, column ∈ call.map Prod.fst ↔ column ∈ first.map Prod.fst := by
  cases calls with
  | nil =>
    refine ⟨fun _ first head => ?_, fun _ => ⟨{}, rfl⟩⟩
    cases head
  | cons first rest =>
    rw [List.map_cons]
    rcases ofRecords_cases (Record.ofList first) (rest.map Record.ofList) with
      ⟨all, v, built, -⟩ | ⟨r, member, misfits, failed⟩
    · refine ⟨fun _ first' head call inCalls => ?_, fun _ => ⟨v, built⟩⟩
      cases head
      rcases List.mem_cons.mp inCalls with rfl | later
      · exact fun _ => Iff.rfl
      · exact fits_ofList.mp (all _ (List.mem_map_of_mem later))
    · refine ⟨fun ⟨v, built⟩ => (nomatch failed.symm.trans built), fun same => absurd ?_ misfits⟩
      obtain ⟨call, inRest, rfl⟩ := List.mem_map.mp member
      exact fits_ofList.mpr (same first rfl call (List.mem_cons_of_mem _ inRest))

theorem ofCalls_cells {v : Values} (built : ofRecords (calls.map Record.ofList) = .ok v) :
    v.columns = columnsSet (calls.head?.getD []) ∧ v.columns.Nodup ∧ v.rows.length = calls.length ∧
      ∀ (i j : Nat) (call : List (String × Operand)) (column : String), calls[i]? = some call →
        v.columns[j]? = some column →
        ∃ row value, v.rows[i]? = some row ∧ row[j]? = some value ∧ lastSet call column = some value := by
  cases calls with
  | nil =>
    cases built
    exact ⟨rfl, List.nodup_nil, rfl, by simp⟩
  | cons first rest =>
    have holds := (ofRecords_eq_ok_iff.mp built).2
    have columns : v.columns = columnsSet first := holds.columns_eq.trans (Record.columns_ofList first)
    have size := congrArg List.length holds.rows_eq
    refine ⟨columns, ?_, by simpa using size, fun i j call column record named => ?_⟩
    · rw [holds.columns_eq]
      exact Record.columns_nodup _
    · have found : ((first :: rest).map Record.ofList)[i]? = some (Record.ofList call) := by
        rw [List.getElem?_map, record]
        rfl
      rw [← Record.get?_ofList]
      exact holds.cell found (holds.columns_eq ▸ named)

theorem ofCalls_failure {e : Error} (failed : ofRecords (calls.map Record.ofList) = .error e) :
    ∃ first ∈ calls.head?, ∃ call ∈ calls, e = .invalid (.columnsDiffer (columnsSet call) (columnsSet first)) := by
  cases calls with
  | nil => cases failed
  | cons first rest =>
    rcases ofRecords_cases (Record.ofList first) (rest.map Record.ofList) with
      ⟨-, v, built, -⟩ | ⟨r, member, -, error⟩
    · exact nomatch built.symm.trans failed
    · obtain ⟨call, inRest, rfl⟩ := List.mem_map.mp member
      rw [Record.columns_ofList, Record.columns_ofList] at error
      cases error.symm.trans failed
      exact ⟨first, rfl, call, List.mem_cons_of_mem _ inRest, rfl⟩

end

/-- Records, each made by calls that set columns, come together exactly if all set the columns of the first. The table
then has these columns in the order in which the first record sets them, and in the row of each record the value that it
sets last for each column; in which order a later record sets its columns does not matter. A failure names the columns
of a record that does not fit beside those of the first. -/
theorem ofRecords_tabulates (calls : List (List (String × Operand))) :
    ((∃ v, ofRecords (calls.map Record.ofList) = .ok v) ↔
      ∀ first ∈ calls.head?, ∀ call ∈ calls, ∀ column, column ∈ call.map Prod.fst ↔ column ∈ first.map Prod.fst) ∧
    (∀ v, ofRecords (calls.map Record.ofList) = .ok v →
      v.columns = columnsSet (calls.head?.getD []) ∧ v.columns.Nodup ∧ v.rows.length = calls.length ∧
      (∀ row ∈ v.rows, row.length = v.columns.length) ∧
      ∀ (i j : Nat) (call : List (String × Operand)) (column : String), calls[i]? = some call →
        v.columns[j]? = some column →
        ∃ row value, v.rows[i]? = some row ∧ row[j]? = some value ∧ lastSet call column = some value) ∧
    (∀ e, ofRecords (calls.map Record.ofList) = .error e →
      ∃ first ∈ calls.head?, ∃ call ∈ calls, e = .invalid (.columnsDiffer (columnsSet call) (columnsSet first))) ∧
    ∀ (first call call' : List (String × Operand)) (before after : List (List (String × Operand))) (v : Values),
      calls = first :: (before ++ call :: after) → Reordered call call' →
      (ofRecords (calls.map Record.ofList) = .ok v ↔
        ofRecords ((first :: (before ++ call' :: after)).map Record.ofList) = .ok v) := by
  refine ⟨ofCalls_succeeds_iff, fun v built => ?_, fun e failed => ofCalls_failure failed, ?_⟩
  · obtain ⟨columns, distinct, rows, cells⟩ := ofCalls_cells built
    exact ⟨columns, distinct, rows, v.widths, cells⟩
  · rintro first call call' before after v rfl reordered
    simp only [List.map_cons, List.map_append]
    apply ofRecords_congr
    intro column
    rw [Record.get?_ofList, Record.get?_ofList, reordered.lastSet_eq]

def staffCalls : List (List (String × Operand)) :=
  [[("name", .value (.text "Ann")), ("pay", .value (.int 30)), ("name", .value (.text "Anne"))],
    [("pay", .value (.int 20)), ("name", .value (.text "Bob"))]]

theorem staff_tabulated : ∃ v, ofRecords (staffCalls.map Record.ofList) = .ok v ∧ v.columns = ["name", "pay"] ∧
    v.rows.length = 2 ∧ (∃ row, v.rows[0]? = some row ∧ row[0]? = some (.value (.text "Anne"))) ∧
    ofRecords ([staffCalls[0], staffCalls[1].reverse].map Record.ofList) = .ok v := by
  obtain ⟨exactly, cells, -, order⟩ := ofRecords_tabulates staffCalls
  obtain ⟨v, built⟩ := exactly.mpr <| by
    intro first head call member column
    cases head
    simp only [staffCalls, List.mem_cons, List.not_mem_nil, or_false] at member
    rcases member with rfl | rfl
    · exact Iff.rfl
    · simp only [List.map_cons, List.map_nil, List.mem_cons, List.not_mem_nil, or_false]
      grind
  obtain ⟨columns, -, rows, -, cell⟩ := cells v built
  have named : v.columns = ["name", "pay"] := columns
  obtain ⟨row, value, inRows, inRow, last⟩ := cell 0 0 staffCalls[0] "name" rfl (by rw [named]; rfl)
  cases last
  refine ⟨v, built, named, rows, ⟨row, inRows, inRow⟩, ?_⟩
  exact (order staffCalls[0] staffCalls[1] staffCalls[1].reverse [] [] v rfl (.swap [] [] (by decide))).mp built

end Values

end SqlCompiler
