import SqlCompiler.Error

namespace SqlCompiler

def setEntry (column : String) (value : Operand) : List (String × Operand) → List (String × Operand)
  | [] => [(column, value)]
  | (name, old) :: rest =>
    if name = column then (name, value) :: rest else (name, old) :: setEntry column value rest

theorem keys_setEntry (column : String) (value : Operand) (entries : List (String × Operand)) :
    (setEntry column value entries).map Prod.fst =
      if column ∈ entries.map Prod.fst then entries.map Prod.fst else entries.map Prod.fst ++ [column] := by
  induction entries with
  | nil => simp [setEntry]
  | cons entry rest ih =>
    by_cases h : entry.1 = column
    · simp [setEntry, h]
    · have h' : ¬ column = entry.1 := fun e => h e.symm
      simp only [setEntry, h, if_false, List.map_cons, ih, List.mem_cons, h', false_or]
      split <;> simp

theorem nodup_setEntry (column : String) (value : Operand) (entries : List (String × Operand))
    (h : (entries.map Prod.fst).Nodup) : ((setEntry column value entries).map Prod.fst).Nodup := by
  rw [keys_setEntry]
  split
  · exact h
  · rename_i absent
    refine List.nodup_append.mpr ⟨h, by simp, ?_⟩
    intro a ha b hb
    rw [List.mem_singleton.mp hb]
    exact fun e => absent (e ▸ ha)

/-- A row, as columns with their values; no column stands in it twice. -/
structure Record where
  entries : List (String × Operand) := []
  distinct : (entries.map Prod.fst).Nodup := by simp

namespace Record

def set (r : Record) (column : String) (value : Operand) : Record :=
  ⟨setEntry column value r.entries, nodup_setEntry column value r.entries r.distinct⟩

def ofList (entries : List (String × Operand)) : Record :=
  entries.foldl (fun r entry => r.set entry.1 entry.2) {}

def columns (r : Record) : List String := r.entries.map Prod.fst

def values (r : Record) : List Operand := r.entries.map Prod.snd

def get? (r : Record) (column : String) : Option Operand :=
  (r.entries.find? fun entry => entry.1 == column).map Prod.snd

def length (r : Record) : Nat := r.entries.length

def isEmpty (r : Record) : Bool := r.entries.isEmpty

def bindings (r : Record) : List Value := r.values.flatMap Operand.bindings

theorem columns_nodup (r : Record) : r.columns.Nodup := r.distinct

def row? (r : Record) : List String → Option (List Operand)
  | [] => some []
  | column :: rest =>
    match r.get? column, r.row? rest with
    | some value, some values => some (value :: values)
    | _, _ => none

theorem length_of_row? {r : Record} {columns : List String} {row : List Operand}
    (h : r.row? columns = some row) : row.length = columns.length := by
  induction columns generalizing row with
  | nil =>
    cases h
    rfl
  | cons column rest ih =>
    simp only [row?] at h
    split at h
    · cases h
      rename_i later
      simp [ih later]
    · cases h

end Record

structure Values where
  columns : List String := []
  rows : List (List Operand) := []
  widths : ∀ row ∈ rows, row.length = columns.length := by simp

namespace Values

/-- Adds a row. The first one settles the columns; the others are put in their order. -/
def add (v : Values) (r : Record) : Except Error Values :=
  if v.rows.isEmpty then
    .ok ⟨r.columns, [r.values], by simp [Record.columns, Record.values]⟩
  else
    match h : r.row? v.columns with
    | some row =>
      if r.length = v.columns.length then
        .ok ⟨v.columns, v.rows ++ [row], by
          intro other member
          rcases List.mem_append.mp member with old | new
          · exact v.widths other old
          · rw [List.mem_singleton.mp new]
            exact Record.length_of_row? h⟩
      else
        .error (.invalid (.columnsDiffer r.columns v.columns))
    | none => .error (.invalid (.columnsDiffer r.columns v.columns))

def ofRecords (records : List Record) : Except Error Values := records.foldlM add {}

def isEmpty (v : Values) : Bool := v.columns.isEmpty

def bindings (v : Values) : List Value := v.rows.flatMap fun row => row.flatMap Operand.bindings

end Values

inductive Replacement
  | inserted (column : String)
  | given (column : String) (value : Operand)

structure Upsert where
  values : Values
  uniqueBy : List String
  /-- Without replacements of its own, every column takes the value that was to be inserted. -/
  update : Option (List Replacement) := none

namespace Upsert

def replacements (u : Upsert) : List Replacement :=
  match u.update with
  | some replacements => replacements
  | none => u.values.columns.map .inserted

end Upsert

def Replacement.bindings : Replacement → List Value
  | .inserted _ => []
  | .given _ value => value.bindings

def Upsert.bindings (u : Upsert) : List Value :=
  u.values.bindings ++ u.replacements.flatMap Replacement.bindings

end SqlCompiler
