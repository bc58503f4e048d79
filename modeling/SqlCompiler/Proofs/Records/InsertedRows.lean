import SqlCompiler.Proofs.Conditions.Comparisons
import SqlCompiler.Proofs.Placement.Insertions
import SqlCompiler.Proofs.Records.Tabulation
import SqlCompiler.Session.Query

namespace SqlCompiler

/-- How many pairs of parentheses a text opens outside of quotes and of other parentheses. -/
def tupleCount (d : Dialect) (p : Place) : List Char → Nat
  | [] => 0
  | c :: cs => tupleCount d ((p.next d c).getD p) cs + (if p = .outside 0 ∧ c = '(' then 1 else 0)

def tuple (row : List Operand) : String := "(" ++ ", ".intercalate (row.map fun value => value.sql.text) ++ ")"

def Target.insertionOf (t : Target) (table : String) (columns tuples : List String) : String :=
  "INSERT INTO " ++ t.table table ++ " (" ++ t.columns columns ++ ") VALUES " ++ ", ".intercalate tuples

section

variable {d : Dialect}

theorem tupleCount_append {p q : Place} {cs : List Char} (walked : walk d p cs = some q) (ds : List Char) :
    tupleCount d p (cs ++ ds) = tupleCount d p cs + tupleCount d q ds := by
  induction cs generalizing p with
  | nil =>
    cases walked
    simp [tupleCount]
  | cons c cs ih =>
    obtain ⟨next, step, rest⟩ := walk_cons_eq_some walked
    simp only [List.cons_append, tupleCount, step, Option.getD_some, ih rest]
    omega

theorem tupleCount_deeper {p q : Place} {cs : List Char} (walked : walk d p cs = some q) (k : Nat) :
    tupleCount d (p.deeper (k + 1)) cs = 0 := by
  induction cs generalizing p with
  | nil => rfl
  | cons c cs ih =>
    obtain ⟨next, step, rest⟩ := walk_cons_eq_some walked
    have within : p.deeper (k + 1) ≠ .outside 0 := by cases p <;> simp [Place.deeper]
    simp [tupleCount, within, Place.next_deeper step, ih rest]

structure Dialect.ReadsTuple (d : Dialect) (s : String) : Prop where
  closed : walk d (.outside 0) s.toList = some (.outside 0)
  single : tupleCount d (.outside 0) s.toList = 1

theorem readsTuple_of_closed {s : String} (closed : d.Closed s) : d.ReadsTuple ("(" ++ s ++ ")") := by
  have opens : walk d (.outside 0) ['('] = some (.outside 1) := by cases d <;> rfl
  have closes : walk d (.outside 1) [')'] = some (.outside 0) := by cases d <;> rfl
  have inner : walk d (.outside 1) s.toList = some (.outside 1) := walk_deeper closed.walked 1
  have one : tupleCount d (.outside 0) ['('] = 1 := by cases d <;> rfl
  have none : tupleCount d (.outside 1) s.toList = 0 := tupleCount_deeper closed.walked 0
  have last : tupleCount d (.outside 1) [')'] = 0 := by cases d <;> rfl
  have text : ("(" ++ s ++ ")").toList = ['('] ++ (s.toList ++ [')']) := by simp
  constructor
  · rw [text, walk_append, opens, Option.bind_some, walk_append, inner, Option.bind_some]
    exact closes
  · rw [text, tupleCount_append opens, tupleCount_append inner, one, none, last]

theorem tuples_counted {tuples : List String} (each : ∀ s ∈ tuples, d.ReadsTuple s) :
    tupleCount d (.outside 0) (", ".intercalate tuples).toList = tuples.length := by
  induction tuples with
  | nil => rfl
  | cons s rest ih =>
    obtain ⟨first, later⟩ := List.forall_mem_cons.mp each
    cases rest with
    | nil => simpa using first.single
    | cons next rest =>
      -- what stands between two tuples opens nothing
      have comma : walk d (.outside 0) ", ".toList = some (.outside 0) := by cases d <;> rfl
      have none : tupleCount d (.outside 0) ", ".toList = 0 := by cases d <;> rfl
      rw [String.intercalate_cons_cons, String.toList_append, String.toList_append, List.append_assoc,
        tupleCount_append first.closed, tupleCount_append comma, first.single, none, ih later]
      simp only [List.length_cons]
      omega

theorem tuple_reads {row : List Operand} (fits : ∀ value ∈ row, value.Fits d false) : d.ReadsTuple (tuple row) := by
  have inner : d.Closed (", ".intercalate (row.map fun value => value.sql.text)) := by
    have spans := parameters_spans fits
    rwa [parameters, Sql.text_join, List.map_map] at spans
  exact readsTuple_of_closed inner

end

theorem Record.rows_of_cells {columns : List String} {records : List Record} {rows : List (List Operand)}
    (cells : rows.map (List.map some) = records.map fun r => columns.map r.get?) :
    rows.map some = records.map (·.row? columns) := by
  induction records generalizing rows with
  | nil => simpa using cells
  | cons r records ih =>
    cases rows with
    | nil => cases cells
    | cons row rows =>
      simp only [List.map_cons, List.cons.injEq] at cells ⊢
      exact ⟨(Record.row?_eq_some_iff.mpr cells.1.symm).symm, ih cells.2⟩

theorem Record.mem_values_of_row? {r : Record} {columns : List String} {row : List Operand}
    (found : r.row? columns = some row) {value : Operand} (member : value ∈ row) : value ∈ r.values := by
  have looked : some value ∈ columns.map r.get? := by
    rw [Record.row?_eq_some_iff.mp found]
    exact List.mem_map_of_mem member
  obtain ⟨column, -, same⟩ := List.mem_map.mp looked
  obtain ⟨entry, first, rfl⟩ := Option.map_eq_some_iff.mp same
  exact List.mem_map_of_mem (List.mem_of_find?_eq_some first)

namespace Values

section

variable {records : List Record} {v : Values} (built : ofRecords records = .ok v)
include built

theorem rows_of_records : v.rows.map some = records.map (·.row? v.columns) := by
  cases records with
  | nil =>
    cases built
    rfl
  | cons first rest =>
    obtain ⟨columns, rows⟩ := (ofRecords_eq_ok_iff.mp built).2
    rw [columns]
    exact Record.rows_of_cells rows

theorem columns_eq_nil_iff : v.columns = [] ↔ ∀ r ∈ records, r.columns = [] := by
  cases records with
  | nil =>
    cases built
    simp
  | cons first rest =>
    obtain ⟨fits, holds⟩ := ofRecords_eq_ok_iff.mp built
    rw [holds.columns_eq]
    refine ⟨fun none => List.forall_mem_cons.mpr ⟨none, fun r member => ?_⟩, fun all => all first (by simp)⟩
    rw [List.eq_nil_iff_forall_not_mem]
    intro column inColumns
    have known := (fits r member column).mp inColumns
    rw [none] at known
    cases known

theorem length_rows : v.rows.length = records.length := by
  simpa using congrArg List.length (rows_of_records built)

theorem fits_of_records {d : Dialect} (fits : ∀ r ∈ records, ∀ value ∈ r.values, value.Fits d false) :
    ∀ row ∈ v.rows, ∀ value ∈ row, value.Fits d false := by
  intro row member value inRow
  have found : some row ∈ records.map (·.row? v.columns) := by
    rw [← rows_of_records built]
    exact List.mem_map_of_mem member
  obtain ⟨r, inRecords, read⟩ := List.mem_map.mp found
  exact fits r inRecords value (Record.mem_values_of_row? read inRow)

end

end Values

theorem Target.insertText_of_columns (t : Target) (table : String) {v : Values} (some : v.columns ≠ []) :
    (t.insertText "INSERT" table v).text = t.insertionOf table v.columns (v.rows.map tuple) := by
  have filled : v.isEmpty = false := by simpa [Values.isEmpty] using some
  have rows : (Sql.join ", " (v.rows.map rowOf)).text = ", ".intercalate (v.rows.map tuple) := by
    rw [Sql.text_join, List.map_map]
    congr 1
    refine List.map_congr_left fun row _ => ?_
    simp [rowOf, tuple, parameters, Sql.text_append, Sql.text_join, Function.comp_def]
  have into : "INSERT" ++ " INTO " = "INSERT INTO " := rfl
  have opens : " (" = " " ++ "(" := rfl
  change _ = "INSERT INTO " ++ t.table table ++ " (" ++ t.columns v.columns ++ ") VALUES " ++
    ", ".intercalate (v.rows.map tuple)
  simp [insertText, filled, Sql.text_append, rows, into, opens, String.append_assoc]

theorem Target.insertText_of_no_columns (t : Target) (table : String) {v : Values} (none : v.columns = []) :
    (t.insertText "INSERT" table v).text = "INSERT INTO " ++ t.table table ++ " " ++ t.defaultRow := by
  have empty : v.isEmpty := by simpa [Values.isEmpty] using none
  have into : "INSERT" ++ " INTO " = "INSERT INTO " := rfl
  simp [insertText, empty, Sql.text_append, into]

namespace Query

/-- Records that set columns come into the table one by one: the statement has the values of each in a tuple, in the
order of the records, and a session sends it as it is. A record that sets no column makes a statement for a row of
defaults; but for a table without columns a session has nothing to send. -/
theorem insert_of_records {records : List Record} {v : Values} (built : Values.ofRecords records = .ok v) (t : Target)
    (q : Query) :
    ((∃ r ∈ records, r.columns ≠ []) →
      v.rows.length = records.length ∧ v.rows.map some = records.map (·.row? v.columns) ∧
      q.insert t v = (do
        t.dialect.finish (t.insertionOf (← q.targetTable) v.columns (v.rows.map tuple)) v.bindings) ∧
      ((∀ r ∈ records, ∀ value ∈ r.values, value.Fits t.dialect false) →
        tupleCount t.dialect (.outside 0) (", ".intercalate (v.rows.map tuple)).toList = records.length) ∧
      ∀ server sent, q.runInsert t v server sent =
        match q.insert t v with
        | .ok st => (server.effect sent st, sent ++ [⟨.effect, st⟩])
        | .error e => (.error e, sent)) ∧
    ((∀ r ∈ records, r.columns = []) →
      (records.length = 1 → q.insert t v = (do
        t.dialect.finish ("INSERT INTO " ++ t.table (← q.targetTable) ++ " " ++ t.defaultRow) [])) ∧
      ∀ server sent, q.runInsert t v server sent = (.ok true, sent)) := by
  have length := Values.length_rows built
  have blank := Values.columns_eq_nil_iff built
  constructor
  · rintro ⟨r, member, sets⟩
    have some : v.columns ≠ [] := fun none => sets (blank.mp none r member)
    have filled : v.isEmpty = false := by simpa [Values.isEmpty] using some
    refine ⟨length, Values.rows_of_records built, ?_, fun fits => ?_, fun server sent => ?_⟩
    · simp only [insert, insertSql, bind_pure_comp, bind_map_left, Target.insertText_of_columns t _ some]
    · rw [tuples_counted, List.length_map, length]
      intro s inTuples
      obtain ⟨row, inRows, rfl⟩ := List.mem_map.mp inTuples
      exact tuple_reads (Values.fits_of_records built fits row inRows)
    · simp only [runInsert, filled]
      cases q.insert t v <;> rfl
  · intro none
    have columns := blank.mpr none
    have empty : v.isEmpty := by simpa [Values.isEmpty] using columns
    refine ⟨fun _ => ?_, fun server sent => ?_⟩
    · simp only [insert, insertSql, bind_pure_comp, bind_map_left, Target.insertText_of_no_columns t _ columns,
        Values.bindings_of_isEmpty empty]
    · simp only [runInsert, empty]
      rfl

/-- Two deliveries make two tuples, and a session sends them together. -/
theorem deliveries_inserted : ∃ v, Values.ofRecords deliveries = .ok v ∧ ∃ st,
    store.insert { dialect := .sqlite } v = .ok st ∧
      st.sql = "INSERT INTO \"store\" (\"item\", \"stock\") VALUES (?, ?), (?, 1 + 1)" ∧
      tupleCount .sqlite (.outside 0) (", ".intercalate (v.rows.map tuple)).toList = 2 ∧
      ∀ server sent, store.runInsert { dialect := .sqlite } v server sent =
        (server.effect sent st, sent ++ [⟨.effect, st⟩]) := by
  obtain ⟨v, built, rows⟩ : ∃ v, Values.ofRecords deliveries = .ok v ∧
      Target.insertionOf { dialect := .sqlite } "store" v.columns (v.rows.map tuple) =
        "INSERT INTO \"store\" (\"item\", \"stock\") VALUES (?, ?), (?, 1 + 1)" := ⟨_, rfl, rfl⟩
  have plain : ∀ name, store.targetTable = .ok name → PlainText name := by
    intro name named
    cases named
    exact PlainText.of_chars rfl
  obtain ⟨st, inserted, -⟩ : ∃ st, store.insert { dialect := .sqlite } v = .ok st ∧ _ :=
    (insert_aligned (PlainText.of_chars rfl) plain (Values.ofRecords_sound deliveries_sound built)).finished
  have sets : ∃ r ∈ deliveries, r.columns ≠ [] := ⟨_, List.mem_cons_self, by simp [Record.columns]⟩
  have fits : ∀ r ∈ deliveries, ∀ value ∈ r.values, value.Fits .sqlite false := by
    have first : ∀ value ∈ [.value (.text "bolt"), .value (.int 7)], Operand.Fits .sqlite false value := by
      simp [Operand.Fits]
    have second : ∀ value ∈ [.raw "1 + 1", .value (.text "nut?")], Operand.Fits .sqlite false value := by
      have sum : Dialect.Closed .sqlite "1 + 1" := .words rfl
      simpa [Operand.Fits] using sum
    exact List.forall_mem_cons.mpr ⟨first, List.forall_mem_singleton.mpr second⟩
  obtain ⟨-, -, statement, count, sends⟩ := (insert_of_records built { dialect := .sqlite } store).1 sets
  have text : st.sql = "INSERT INTO \"store\" (\"item\", \"stock\") VALUES (?, ?), (?, 1 + 1)" := by
    rw [statement] at inserted
    have finished : Dialect.sqlite.finish (Target.insertionOf { dialect := .sqlite } "store" v.columns
        (v.rows.map tuple)) v.bindings = .ok st := inserted
    obtain ⟨-, rfl⟩ := Dialect.of_finish finished
    exact rows
  refine ⟨v, built, st, inserted, text, count fits, fun server sent => ?_⟩
  rw [sends, inserted]

/-- A record without columns says that a row of defaults is wanted, but a session does not send it; and of two such
records the statement inserts one. -/
theorem blank_records_dropped :
    (∃ v, Values.ofRecords [{}] = .ok v ∧
      store.insert { dialect := .postgres } v = .ok ⟨"INSERT INTO \"store\" DEFAULT VALUES", []⟩ ∧
      ∀ server, store.runInsert { dialect := .postgres } v server [] = (.ok true, [])) ∧
    ∃ v, Values.ofRecords [{}, {}] = .ok v ∧ v.rows.length = 2 ∧
      store.insert { dialect := .mysql } v = .ok ⟨"INSERT INTO `store` () VALUES ()", []⟩ :=
  ⟨⟨_, rfl, rfl, fun _ => rfl⟩, _, rfl, rfl, rfl⟩

end Query

end SqlCompiler
