import SqlCompiler.Proofs.Placement.Assignments
import SqlCompiler.Proofs.Placement.Selects

namespace SqlCompiler

structure Values.Sound (d : Dialect) (v : Values) : Prop where
  columns : ∀ column ∈ v.columns, PlainText column
  rows : ∀ row ∈ v.rows, ∀ value ∈ row, value.Sound d

def Replacement.Sound (d : Dialect) : Replacement → Prop
  | .inserted column => PlainText column
  | .given column value => PlainText column ∧ value.Sound d

structure Upsert.Sound (d : Dialect) (u : Upsert) : Prop where
  values : u.values.Sound d
  uniqueBy : ∀ column ∈ u.uniqueBy, PlainText column
  update : ∀ list ∈ u.update, ∀ replacement ∈ list, replacement.Sound d

namespace Record

variable {d : Dialect} {r : Record}

theorem Sound.of_get? (sound : r.Sound d) {column : String} {value : Operand} (found : r.get? column = some value) :
    value.Sound d := by
  obtain ⟨entry, first, rfl⟩ := Option.map_eq_some_iff.mp found
  exact (sound entry (List.mem_of_find?_eq_some first)).2

theorem Sound.of_row? (sound : r.Sound d) {columns : List String} {row : List Operand}
    (found : r.row? columns = some row) : ∀ value ∈ row, value.Sound d := by
  induction columns generalizing row with
  | nil =>
    cases found
    simp
  | cons column rest ih =>
    simp only [row?] at found
    split at found
    · rename_i value values first later
      cases found
      exact List.forall_mem_cons.mpr ⟨sound.of_get? first, ih later⟩
    · cases found

end Record

namespace Values

variable {d : Dialect}

theorem Sound.add {v v' : Values} (sound : v.Sound d) {r : Record} (row : r.Sound d) (added : v.add r = .ok v') :
    v'.Sound d := by
  unfold Values.add at added
  split at added
  · cases added
    refine ⟨fun column member => ?_, fun row' member value inRow => ?_⟩
    · obtain ⟨entry, inEntries, rfl⟩ := List.mem_map.mp member
      exact (row entry inEntries).1
    · rw [List.mem_singleton.mp member] at inRow
      obtain ⟨entry, inEntries, rfl⟩ := List.mem_map.mp inRow
      exact (row entry inEntries).2
  · split at added
    · rename_i found
      split at added
      · cases added
        refine ⟨sound.columns, fun row' member => ?_⟩
        rcases List.mem_append.mp member with old | new
        · exact sound.rows row' old
        · rw [List.mem_singleton.mp new]
          exact row.of_row? found
      · cases added
    · cases added

theorem ofRecords_sound {records : List Record} (sound : ∀ r ∈ records, r.Sound d) {v : Values}
    (built : ofRecords records = .ok v) : v.Sound d := by
  have start : ({} : Values).Sound d := ⟨by simp, by simp⟩
  unfold ofRecords at built
  generalize ({} : Values) = before at built start
  induction records generalizing before with
  | nil =>
    cases built
    exact start
  | cons r rest ih =>
    rw [List.foldlM_cons] at built
    cases added : before.add r with
    | ok next =>
      rw [added] at built
      exact ih (fun r' member => sound r' (List.mem_cons_of_mem _ member)) next built
        (start.add (sound r (by simp)) added)
    | error e =>
      rw [added] at built
      cases built

def sql (v : Values) : Sql := if v.isEmpty then .empty else .join ", " (v.rows.map Target.rowOf)

theorem bindings_of_isEmpty {v : Values} (nothing : v.isEmpty) : v.bindings = [] := by
  have columns : v.columns = [] := by simpa [isEmpty] using nothing
  have empty : ∀ row ∈ v.rows, row = [] := by
    intro row member
    have width := v.widths row member
    rw [columns] at width
    exact List.length_eq_zero_iff.mp width
  rw [bindings, List.flatMap_eq_nil_iff]
  intro row member
  rw [empty row member]
  rfl

theorem Sound.sql_binds {v : Values} (sound : v.Sound d) : v.sql.Binds d v.bindings := by
  have row : ∀ row ∈ v.rows, (Target.rowOf row).Binds d (row.flatMap Operand.bindings) :=
    fun row member => (parameters_binds (sound.rows row member)).within rfl rfl
  unfold sql
  split
  · rename_i nothing
    rw [bindings_of_isEmpty nothing]
    exact Sql.Binds.empty d
  · exact (BindsAll.map row).join (Dialect.inert_chars rfl)

end Values

theorem Upsert.Sound.replacements {d : Dialect} {u : Upsert} (sound : u.Sound d) :
    ∀ replacement ∈ u.replacements, replacement.Sound d := by
  intro replacement member
  unfold Upsert.replacements at member
  split at member
  · rename_i list found
    exact sound.update list found replacement member
  · obtain ⟨column, inColumns, rfl⟩ := List.mem_map.mp member
    exact sound.values.columns column inColumns

theorem Statement.Aligned.bindings {d : Dialect} {st : Statement} {before after : String} {s : Sql}
    {values : List Value} (aligned : st.Aligned d before s after) (binds : s.Binds d values) :
    st.bindings = values := by
  rw [aligned.bindings_eq, (Sql.placementsFrom_sound binds.sound _).2]
  exact binds.values_eq

namespace Target

/-- The statement writes the rows one behind the other. Each of its placeholders is one of theirs, with its value. -/
def InsertAligned (t : Target) (values : Values) (st : Statement) : Prop :=
  st.bindings = values.bindings ∧ ∃ before after, st.Aligned t.dialect before values.sql after

/-- The statement writes the rows one behind the other and then, in their order, the replacements. Each of its
placeholders is one of theirs, with its value. -/
def UpsertAligned (t : Target) (u : Upsert) (st : Statement) : Prop :=
  st.bindings = u.bindings ∧ ∃ before between after inserted, st.Aligned t.dialect before
    (u.values.sql ++ Sql.ofText between ++ t.replacements inserted u.replacements) after

section

variable {t : Target} (plainPrefix : PlainText t.tablePrefix)
include plainPrefix

theorem replacements_binds {inserted : String → String}
    (quiet : ∀ column, t.dialect.Inert column → t.dialect.Inert (inserted column)) {list : List Replacement}
    (sound : ∀ replacement ∈ list, replacement.Sound t.dialect) :
    (t.replacements inserted list).Binds t.dialect (list.flatMap Replacement.bindings) := by
  have each : ∀ replacement ∈ list, (t.replacement inserted replacement).Binds t.dialect replacement.bindings := by
    intro replacement member
    have holds := sound replacement member
    cases replacement with
    | inserted column =>
      have name := column_inert plainPrefix holds
      exact ((Sql.Binds.ofText name).beforePlain rfl).before (quiet _ name)
    | given column value =>
      have name := column_inert plainPrefix holds.1
      exact ((Sql.Binds.ofText name).beforePlain rfl).append (Operand.sql_binds holds.2)
  exact (BindsAll.map each).join (Dialect.inert_chars rfl)

theorem insertText_ends {values : Values} (sound : values.Sound t.dialect) {verb table : String}
    (word : t.dialect.Inert verb) (plain : PlainText table) :
    ∃ head, t.dialect.Inert head ∧ (t.insertText verb table values).text = head ++ values.sql.text := by
  have into : t.dialect.Inert (verb ++ " INTO " ++ t.table table ++ " ") :=
    ((word.append (Dialect.inert_chars rfl)).append (table_inert plainPrefix plain)).append (Dialect.inert_chars rfl)
  have columns := columns_inert plainPrefix sound.columns
  unfold insertText Values.sql
  split
  · have default_ : t.dialect.Inert t.defaultRow := by
      unfold defaultRow
      split <;> exact Dialect.inert_chars rfl
    have nothing : Sql.empty.text = "" := rfl
    refine ⟨_, into.append default_, ?_⟩
    rw [nothing, Sql.text_append, Sql.text_ofText, Sql.text_ofText, String.append_empty]
  · have list : t.dialect.Inert ("(" ++ t.columns values.columns ++ ") VALUES ") :=
      ((Dialect.inert_chars rfl).append columns).append (Dialect.inert_chars rfl)
    refine ⟨_, into.append list, ?_⟩
    simp only [Sql.text_append, Sql.text_ofText, String.append_assoc]

end

end Target

namespace Query

section

variable {t : Target} (plainPrefix : PlainText t.tablePrefix) {q : Query}
  (table : ∀ name, q.targetTable = .ok name → PlainText name)
include table

theorem targetTable_compiles : Compiles PlainText q.targetTable := by
  unfold targetTable at *
  split at *
  · exact .ok (table _ rfl)
  · exact .error fun _ _ => Error.noConfusion

section

variable {values : Values} (sound : values.Sound t.dialect)
include plainPrefix sound

theorem insertSql_ends {verb : String} (word : t.dialect.Inert verb) :
    Compiles (fun s => ∃ head, t.dialect.Inert head ∧ s.text = head ++ values.sql.text)
      (q.insertSql t verb values) :=
  (targetTable_compiles table).map fun _ plain => Target.insertText_ends plainPrefix sound word plain

theorem insertStatement_aligned {verb before after : String} (word : t.dialect.Inert verb)
    (opens : t.dialect.Inert before) (closes : t.dialect.Inert after) :
    Compiles (t.InsertAligned values) (do
      t.dialect.finish (before ++ (← q.insertSql t verb values).text ++ after) values.bindings) := by
  apply (insertSql_ends plainPrefix table sound word).bind
  rintro s ⟨head, inert, text⟩
  have whole : before ++ s.text ++ after = before ++ head ++ values.sql.text ++ after := by
    simp only [text, String.append_assoc]
  exact Compiles.finish sound.sql_binds _ _ whole (opens.append inert) closes fun st aligned =>
    ⟨aligned.bindings sound.sql_binds, _, _, aligned⟩

theorem insert_aligned : Compiles (t.InsertAligned values) (q.insert t values) := by
  have none := Dialect.inert_empty t.dialect
  have word : t.dialect.Inert "INSERT" := Dialect.inert_chars rfl
  have aligned := insertStatement_aligned plainPrefix table sound word none none
  simpa only [insert, String.empty_append, String.append_empty] using aligned

theorem insertOrIgnore_aligned : Compiles (t.InsertAligned values) (q.insertOrIgnore t values) := by
  have none := Dialect.inert_empty t.dialect
  have plain {verb : String} (word : t.dialect.Inert verb) := by
    simpa only [String.empty_append, String.append_empty] using
      insertStatement_aligned plainPrefix table sound word none none
  unfold insertOrIgnore
  split
  · exact plain (Dialect.inert_chars rfl)
  · exact plain (Dialect.inert_chars rfl)
  · have word : t.dialect.Inert "INSERT" := Dialect.inert_chars rfl
    have closes : t.dialect.Inert " ON CONFLICT DO NOTHING" := Dialect.inert_chars rfl
    have aligned := insertStatement_aligned plainPrefix table sound word none closes
    simpa only [String.empty_append, Sql.text_append, Sql.text_ofText] using aligned
  · exact Compiles.unsupported t _

theorem insertReturningId_aligned {key : Option String} (plainKey : ∀ name ∈ key, PlainText name) :
    Compiles (t.InsertAligned values) (q.insertReturningId t values key) := by
  have none := Dialect.inert_empty t.dialect
  have insert : t.dialect.Inert "INSERT" := Dialect.inert_chars rfl
  have name : t.dialect.Inert (t.column (key.getD "id")) := by
    cases key with
    | none => exact Target.column_inert plainPrefix (PlainText.of_chars rfl)
    | some name => exact Target.column_inert plainPrefix (plainKey name rfl)
  have aligned {before after : String} (opens : t.dialect.Inert before) (closes : t.dialect.Inert after) :=
    insertStatement_aligned plainPrefix table sound insert opens closes
  cases dialect : t.dialect with
  | postgres =>
    have returning : t.dialect.Inert (" RETURNING " ++ t.column (key.getD "id")) :=
      (Dialect.inert_chars rfl).append name
    simpa only [insertReturningId, dialect, String.empty_append, Sql.text_append, Sql.text_ofText,
      String.append_assoc] using aligned none returning
  | sqlServer =>
    have quiet : t.dialect.Inert "SET NOCOUNT ON;" := Dialect.inert_chars rfl
    have asks : t.dialect.Inert (";SELECT SCOPE_IDENTITY() AS " ++ t.column (key.getD "id")) :=
      (Dialect.inert_chars rfl).append name
    simpa only [insertReturningId, dialect, Sql.text_append, Sql.text_ofText, String.append_assoc] using
      aligned quiet asks
  | mysql | sqlite =>
    simpa only [insertReturningId, dialect, String.empty_append, String.append_empty] using aligned none none

end

section

variable {u : Upsert}

/-- Between texts of the dialect's own stand the rows and, behind them, the replacements. -/
inductive WritesUpsert (t : Target) (u : Upsert) (text : String) : Prop
  | intro (before between after : String) (inserted : String → String) (opens : t.dialect.Inert before)
    (joins : t.dialect.Inert between) (closes : t.dialect.Inert after)
    (quiet : ∀ column, t.dialect.Inert column → t.dialect.Inert (inserted column))
    (shape : text = before ++ u.values.sql.text ++ between ++ (t.replacements inserted u.replacements).text ++ after)

variable (sound : u.Sound t.dialect)
include plainPrefix sound

omit table in
theorem WritesUpsert.aligned {text : String} (writes : WritesUpsert t u text) :
    Compiles (t.UpsertAligned u) (t.dialect.finish text u.bindings) := by
  obtain ⟨before, between, after, inserted, opens, joins, closes, quiet, shape⟩ := writes
  have binds := (sound.values.sql_binds.before joins).append
    (Target.replacements_binds plainPrefix quiet sound.replacements)
  refine Compiles.finish binds before after ?_ opens closes fun st aligned =>
    ⟨aligned.bindings binds, _, _, _, _, aligned⟩
  simp only [shape, Sql.text_append, Sql.text_ofText, String.append_assoc]

omit plainPrefix table sound in
theorem rowColumn_inert {name column : String} (plain : PlainText name) (inert : t.dialect.Inert column) :
    t.dialect.Inert (t.dialect.quoteName name ++ "." ++ column) :=
  ((quoteName_inert plain t.dialect).append (Dialect.inert_chars rfl)).append inert

theorem duplicateKeySql_writes : Compiles (fun s => WritesUpsert t u s.text) (q.duplicateKeySql t u) := by
  have none := Dialect.inert_empty t.dialect
  have row : PlainText "upsert_row" := PlainText.of_chars rfl
  unfold duplicateKeySql
  apply (insertSql_ends plainPrefix table sound.values (Dialect.inert_chars rfl)).bind
  rintro rows ⟨head, opens, text⟩
  split
  · apply Compiles.pure
    have between : t.dialect.Inert (" AS " ++ t.dialect.quoteName "upsert_row" ++ " ON DUPLICATE KEY UPDATE ") :=
      ((Dialect.inert_chars rfl).append (quoteName_inert row t.dialect)).append (Dialect.inert_chars rfl)
    refine .intro _ _ _ (fun column => t.dialect.quoteName "upsert_row" ++ "." ++ column) opens between none
      (fun _ => rowColumn_inert row) ?_
    simp only [text, Sql.text_append, Sql.text_ofText, String.append_assoc, String.append_empty]
  · apply Compiles.pure
    have between : t.dialect.Inert " ON DUPLICATE KEY UPDATE " := Dialect.inert_chars rfl
    have called : ∀ column, t.dialect.Inert column → t.dialect.Inert ("VALUES(" ++ column ++ ")") :=
      fun column inert => ((Dialect.inert_chars rfl).append inert).append (Dialect.inert_chars rfl)
    refine .intro _ _ _ _ opens between none called ?_
    simp only [text, Sql.text_append, Sql.text_ofText, String.append_assoc, String.append_empty]

theorem conflictSql_writes : Compiles (fun s => WritesUpsert t u s.text) (q.conflictSql t u) := by
  have excluded : PlainText "excluded" := PlainText.of_chars rfl
  have key := Target.columns_inert plainPrefix sound.uniqueBy
  unfold conflictSql
  apply (insertSql_ends plainPrefix table sound.values (Dialect.inert_chars rfl)).map
  rintro rows ⟨head, opens, text⟩
  have between : t.dialect.Inert (" ON CONFLICT (" ++ t.columns u.uniqueBy ++ ") DO UPDATE SET ") :=
    ((Dialect.inert_chars rfl).append key).append (Dialect.inert_chars rfl)
  refine .intro _ _ _ (fun column => t.dialect.quoteName "excluded" ++ "." ++ column) opens between
    (Dialect.inert_empty t.dialect) (fun _ => rowColumn_inert excluded) ?_
  simp only [text, Sql.text_append, Sql.text_ofText, String.append_assoc, String.append_empty]

omit table in
theorem matching_inert {name : String} (plain : PlainText name) :
    t.dialect.Inert (" AND ".intercalate (u.uniqueBy.map fun c =>
      t.dialect.quoteName "upsert_source" ++ "." ++ t.column c ++ " = " ++ t.table name ++ "." ++ t.column c)) := by
  apply inert_intercalate (Dialect.inert_chars rfl)
  intro part member
  obtain ⟨c, inKey, rfl⟩ := List.mem_map.mp member
  have column := Target.column_inert plainPrefix (sound.uniqueBy c inKey)
  have source := rowColumn_inert (PlainText.of_chars rfl : PlainText "upsert_source") column
  have into := Target.table_inert plainPrefix plain
  exact (((source.append (Dialect.inert_chars rfl)).append into).append (Dialect.inert_chars rfl)).append column

omit table in
theorem sourceColumns_inert : t.dialect.Inert (", ".intercalate (u.values.columns.map fun c =>
    t.dialect.quoteName "upsert_source" ++ "." ++ t.column c)) := by
  apply inert_intercalate (Dialect.inert_chars rfl)
  intro part member
  obtain ⟨c, inColumns, rfl⟩ := List.mem_map.mp member
  exact rowColumn_inert (PlainText.of_chars rfl) (Target.column_inert plainPrefix (sound.values.columns c inColumns))

theorem mergeSql_writes : Compiles (fun s => WritesUpsert t u s.text) (q.mergeSql t u) := by
  have source : PlainText "upsert_source" := PlainText.of_chars rfl
  have columns := Target.columns_inert plainPrefix sound.values.columns
  unfold mergeSql
  split
  · exact .error fun _ _ => Error.noConfusion
  · rename_i some
    apply (targetTable_compiles table).map
    intro name plain
    have rows : u.values.sql = .join ", " (u.values.rows.map Target.rowOf) := if_neg some
    have before : t.dialect.Inert ("MERGE " ++ t.table name ++ " USING (VALUES ") :=
      ((Dialect.inert_chars rfl).append (Target.table_inert plainPrefix plain)).append (Dialect.inert_chars rfl)
    have called : t.dialect.Inert (") " ++ t.dialect.quoteName "upsert_source" ++ " (" ++
        t.columns u.values.columns ++ ") ON ") :=
      ((((Dialect.inert_chars rfl).append (quoteName_inert source t.dialect)).append (Dialect.inert_chars rfl)).append
        columns).append (Dialect.inert_chars rfl)
    have changes : t.dialect.Inert " WHEN MATCHED THEN UPDATE SET " := Dialect.inert_chars rfl
    have between := (called.append (matching_inert plainPrefix sound plain)).append changes
    have after : t.dialect.Inert (" WHEN NOT MATCHED THEN INSERT (" ++ t.columns u.values.columns ++ ") VALUES (" ++
        ", ".intercalate (u.values.columns.map fun c => t.dialect.quoteName "upsert_source" ++ "." ++ t.column c) ++
        ");") :=
      ((((Dialect.inert_chars rfl).append columns).append (Dialect.inert_chars rfl)).append
        (sourceColumns_inert plainPrefix sound)).append (Dialect.inert_chars rfl)
    refine .intro _ _ _ (fun column => t.dialect.quoteName "upsert_source" ++ "." ++ column) before between after
      (fun _ => rowColumn_inert source) ?_
    simp only [rows, Sql.text_append, Sql.text_ofText, String.append_assoc]

theorem upsert_aligned : Compiles (t.UpsertAligned u) (q.upsert t u) := by
  unfold upsert
  split
  · rename_i nothing
    -- the statement only inserts: the replacements are an empty text at its end
    have replaced : u.replacements = [] := List.isEmpty_iff.mp nothing
    have bound : u.bindings = u.values.bindings := by
      rw [Upsert.bindings, replaced, List.flatMap_nil, List.append_nil]
    have none := Dialect.inert_empty t.dialect
    have unwritten : (t.replacements id u.replacements).text = "" := by
      rw [replaced]
      rfl
    rw [insert, ← bound]
    apply (insertSql_ends plainPrefix table sound.values (Dialect.inert_chars rfl)).bind
    rintro rows ⟨head, opens, text⟩
    refine WritesUpsert.aligned plainPrefix sound (.intro head "" "" id opens none none (fun _ inert => inert) ?_)
    simp only [text, unwritten, String.append_empty]
  · split
    · exact .error fun _ _ => Error.noConfusion
    · have finished {written : Except Error Sql} (writes : Compiles (fun s => WritesUpsert t u s.text) written) :
          Compiles (t.UpsertAligned u) (written >>= fun s => t.dialect.finish s.text u.bindings) :=
        writes.bind fun s writes => writes.aligned plainPrefix sound
      split
      · exact finished (duplicateKeySql_writes plainPrefix table sound)
      · exact finished (conflictSql_writes plainPrefix table sound)
      · exact finished (conflictSql_writes plainPrefix table sound)
      · exact finished (mergeSql_writes plainPrefix table sound)

end

include plainPrefix in
/-- Insertions are never refused for their count of values. Each placeholder belongs to the value in its place, row by
row in the order of the columns and then replacement by replacement. -/
theorem insertions_aligned {values : Values} (rows : values.Sound t.dialect) {key : Option String}
    (plainKey : ∀ name ∈ key, PlainText name) {u : Upsert} (sound : u.Sound t.dialect) :
    Compiles (t.InsertAligned values) (q.insert t values) ∧
      Compiles (t.InsertAligned values) (q.insertOrIgnore t values) ∧
      Compiles (t.InsertAligned values) (q.insertReturningId t values key) ∧
      Compiles (t.UpsertAligned u) (q.upsert t u) :=
  ⟨insert_aligned plainPrefix table rows, insertOrIgnore_aligned plainPrefix table rows,
    insertReturningId_aligned plainPrefix table rows plainKey, upsert_aligned plainPrefix table sound⟩

end

def deliveries : List Record :=
  [{ entries := [("item", .value (.text "bolt")), ("stock", .value (.int 7))] },
    { entries := [("stock", .raw "1 + 1"), ("item", .value (.text "nut?"))] }]

def store : Query where
  source := some (.table "store")

theorem deliveries_sound : ∀ r ∈ deliveries, r.Sound .sqlite := by
  have plain : PlainText "item" ∧ PlainText "stock" := ⟨PlainText.of_chars rfl, PlainText.of_chars rfl⟩
  have first : Record.Sound .sqlite { entries := [("item", .value (.text "bolt")), ("stock", .value (.int 7))] } := by
    simpa [Record.Sound] using ⟨⟨plain.1, True.intro⟩, plain.2, True.intro⟩
  have second : Record.Sound .sqlite { entries := [("stock", .raw "1 + 1"), ("item", .value (.text "nut?"))] } := by
    simpa [Record.Sound] using ⟨⟨plain.2, Dialect.inert_chars rfl⟩, plain.1, True.intro⟩
  simpa [deliveries] using ⟨first, second⟩

def restocking (values : Values) : Upsert where
  values
  uniqueBy := ["item"]
  update := some [.inserted "stock", .given "note" (.value (.int 5))]

theorem restocking_sound {values : Values} (sound : values.Sound .sqlite) : (restocking values).Sound .sqlite := by
  have item : PlainText "item" := PlainText.of_chars rfl
  have plain : PlainText "stock" := PlainText.of_chars rfl
  have stock : Replacement.Sound .sqlite (.inserted "stock") := plain
  have note : Replacement.Sound .sqlite (.given "note" (.value (.int 5))) := ⟨PlainText.of_chars rfl, True.intro⟩
  exact ⟨sound, by simpa [restocking] using item, by simpa [restocking] using ⟨stock, note⟩⟩

/-- The rows bind their values in the order of the first one's columns. Raw values and copied columns bind none. -/
theorem deliveries_aligned :
    ∃ values, Values.ofRecords deliveries = .ok values ∧
      (∃ st, store.insert { dialect := .sqlite } values = .ok st ∧
        st.bindings = [.text "bolt", .int 7, .text "nut?"] ∧ Target.InsertAligned { dialect := .sqlite } values st) ∧
      (∃ st, store.insertOrIgnore { dialect := .sqlite } values = .ok st ∧
        st.bindings = [.text "bolt", .int 7, .text "nut?"] ∧ Target.InsertAligned { dialect := .sqlite } values st) ∧
      (∃ st, store.insertReturningId { dialect := .sqlite } values (some "number") = .ok st ∧
        st.bindings = [.text "bolt", .int 7, .text "nut?"] ∧ Target.InsertAligned { dialect := .sqlite } values st) ∧
      ∃ st, store.upsert { dialect := .sqlite } (restocking values) = .ok st ∧
        st.bindings = [.text "bolt", .int 7, .text "nut?", .int 5] ∧
        Target.UpsertAligned { dialect := .sqlite } (restocking values) st := by
  obtain ⟨values, built, bound⟩ : ∃ values, Values.ofRecords deliveries = .ok values ∧
      values.bindings = [.text "bolt", .int 7, .text "nut?"] := ⟨_, rfl, rfl⟩
  have sound := Values.ofRecords_sound deliveries_sound built
  have replaced : (restocking values).bindings = [.text "bolt", .int 7, .text "nut?", .int 5] := by
    rw [Upsert.bindings, restocking, bound]
    rfl
  have plainKey : ∀ name ∈ some "number", PlainText name := by simpa using PlainText.of_chars rfl
  obtain ⟨inserted, ignored, keyed, changed⟩ := insertions_aligned (t := { dialect := .sqlite }) (q := store)
    (PlainText.of_chars rfl) (fun _ named => by cases named; exact PlainText.of_chars rfl) sound plainKey
    (restocking_sound sound)
  refine ⟨values, built, ?_, ?_, ?_, ?_⟩
  · rw [← bound]
    exact inserted.finished
  · rw [← bound]
    exact ignored.finished
  · rw [← bound]
    exact keyed.finished
  · have update : store.upsert { dialect := .sqlite } (restocking values) =
        store.conflictSql { dialect := .sqlite } (restocking values) >>= fun sql =>
          Dialect.sqlite.finish sql.text (restocking values).bindings := rfl
    have written : store.conflictSql { dialect := .sqlite } (restocking values) = pure _ := rfl
    rw [update, written, pure_bind] at changed
    rw [update, written, pure_bind, ← replaced]
    exact changed.finished

end Query

end SqlCompiler
