import SqlCompiler.Proofs.Placement.Nested
import SqlCompiler.Write.Insert

namespace SqlCompiler

/-- The SQL stands in the statement between two texts, and the placeholders of the statement are those of the SQL:
one after the other they were written for the values of the statement. -/
structure Statement.Aligned (d : Dialect) (st : Statement) (before : String) (s : Sql) (after : String) : Prop where
  text_eq : st.sql = before ++ s.text ++ after
  positions_eq : d.positions st.sql = (Sql.placementsFrom d before.utf8ByteSize s.pieces).map Prod.fst
  bindings_eq : st.bindings = (Sql.placementsFrom d before.utf8ByteSize s.pieces).map Prod.snd

theorem Sql.Binds.finish {d : Dialect} {values : List Value} {s : Sql} (binds : s.Binds d values)
    {before after : String} (opens : d.Inert before) (closes : d.Inert after) :
    ∃ st, d.finish (before ++ s.text ++ after) values = .ok st ∧ st.Aligned d before s after := by
  have start := Dialect.Holds.append opens binds.sound.holds
  have whole := start.append closes
  have count : d.placeholders (before ++ s.text ++ after) = values.length := by
    rw [whole.count, binds.values_eq]
    omega
  have placed := Sql.placementsFrom_sound binds.sound before.utf8ByteSize
  have scanned : d.positions (before ++ s.text ++ after) =
      positionsFrom d .outside before.utf8ByteSize s.text.toList := by
    rw [Dialect.positions, start.positions_append, Dialect.Holds.positions_append opens, opens.positions,
      closes.positions]
    simp
  refine ⟨⟨before ++ s.text ++ after, values⟩, by rw [Dialect.finish, if_pos count], rfl, ?_, ?_⟩
  · rw [scanned]
    exact placed.1.symm
  · rw [← binds.values_eq]
    exact placed.2.symm

theorem Compiles.finish {d : Dialect} {values : List Value} {s : Sql} {P : Statement → Prop}
    (binds : s.Binds d values) {text : String} (before after : String) (shape : text = before ++ s.text ++ after)
    (opens : d.Inert before) (closes : d.Inert after) (holds : ∀ st : Statement, st.Aligned d before s after → P st) :
    Compiles P (d.finish text values) := by
  obtain ⟨st, finished, aligned⟩ := binds.finish opens closes
  rw [shape, finished]
  exact .ok (holds st aligned)

theorem Compiles.finished {d : Dialect} {values : List Value} {text : String} {P : Statement → Prop}
    (compiles : Compiles P (d.finish text values)) :
    ∃ st, d.finish text values = .ok st ∧ st.bindings = values ∧ P st := by
  unfold Dialect.finish at compiles ⊢
  split at compiles
  · rename_i same
    cases compiles with
    | ok holds => exact ⟨⟨text, values⟩, if_pos same, rfl, holds⟩
  · cases compiles with
    | error other => exact absurd rfl (other _ _)

namespace Query

/-- The rows of the query stand in the statement, and no other part of it binds a value. -/
def AlignedIn (t : Target) (q : Query) (st : Statement) : Prop :=
  ∃ rows before after, q.sql t = .ok rows ∧ st.Aligned t.dialect before rows after

section

variable {t : Target} (plainPrefix : PlainText t.tablePrefix) {q : Query} (regular : q.Regular t)
include plainPrefix regular

theorem selectStatement_aligned : Compiles (q.AlignedIn t) (q.selectStatement t) := by
  apply (Query.sql_binds plainPrefix q regular.sound regular.places).bind_eq
  intro rows compiled binds
  have none := Dialect.inert_empty t.dialect
  exact Compiles.finish binds "" "" (by simp) none none fun st aligned => ⟨rows, "", "", compiled, aligned⟩

theorem hasRowsStatement_aligned : Compiles (q.AlignedIn t) (q.hasRowsStatement t) := by
  apply (Query.sql_binds plainPrefix q regular.sound regular.places).bind_eq
  intro rows compiled binds
  have label := quoteName_inert (s := "exists") (PlainText.of_chars rfl) t.dialect
  by_cases sqlServer : t.dialect = .sqlServer
  · have text : (hasRowsText t rows).text = "SELECT CAST(CASE WHEN EXISTS(" ++ rows.text ++
        (") THEN 1 ELSE 0 END AS BIT) AS " ++ t.dialect.quoteName "exists") := by
      simp [hasRowsText, sqlServer, String.append_assoc]
    exact Compiles.finish binds _ _ text (Dialect.inert_chars rfl) ((Dialect.inert_chars rfl).append label)
      fun st aligned => ⟨rows, _, _, compiled, aligned⟩
  · have text : (hasRowsText t rows).text = "SELECT EXISTS(" ++ rows.text ++
        (") AS " ++ t.dialect.quoteName "exists") := by
      simp [hasRowsText, String.append_assoc]
    exact Compiles.finish binds _ _ text (Dialect.inert_chars rfl) ((Dialect.inert_chars rfl).append label)
      fun st aligned => ⟨rows, _, _, compiled, aligned⟩

theorem insertFrom_aligned {into : Query} {columns : List String}
    (table : ∀ name, into.targetTable = .ok name → PlainText name) (plain : ∀ column ∈ columns, PlainText column) :
    Compiles (q.AlignedIn t) (into.insertFrom t columns q) := by
  unfold insertFrom
  cases found : into.targetTable with
  | error e =>
    unfold targetTable at found
    split at found
    · cases found
    · cases found
      exact .error fun _ _ => Error.noConfusion
  | ok name =>
    have written := Target.table_inert plainPrefix (table name found)
    have names := Target.columns_inert plainPrefix plain
    have head : t.dialect.Inert ("INSERT INTO " ++ t.table name ++ " ") :=
      (Dialect.inert_chars rfl |>.append written).append (Dialect.inert_chars rfl)
    apply (Query.sql_binds plainPrefix q regular.sound regular.places).bind_eq
    intro rows compiled binds
    have none := Dialect.inert_empty t.dialect
    split
    · exact Compiles.finish binds _ "" (by simp) head none fun st aligned => ⟨rows, _, "", compiled, aligned⟩
    · have list : t.dialect.Inert ("INSERT INTO " ++ t.table name ++ " " ++ "(" ++ t.columns columns ++ ") ") :=
        ((head.append (Dialect.inert_chars rfl)).append names).append (Dialect.inert_chars rfl)
      exact Compiles.finish binds _ "" (by simp) list none fun st aligned => ⟨rows, _, "", compiled, aligned⟩

/-- A query that can be placed is never refused for its count of values, and each placeholder belongs to the value in
its place: where the rows are selected, where a statement asks whether there are any, and where they are inserted. -/
theorem rows_aligned :
    Compiles (q.AlignedIn t) (q.selectStatement t) ∧ Compiles (q.AlignedIn t) (q.hasRowsStatement t) ∧
      ∀ (into : Query) (columns : List String), (∀ name, into.targetTable = .ok name → PlainText name) →
        (∀ column ∈ columns, PlainText column) → Compiles (q.AlignedIn t) (into.insertFrom t columns q) :=
  ⟨selectStatement_aligned plainPrefix regular, hasRowsStatement_aligned plainPrefix regular,
    fun _ _ table plain => insertFrom_aligned plainPrefix regular table plain⟩

end

def highestPaid : Query where
  columns := [.column "name", .raw "coalesce(pay, ?)" [.int 1]]
  source := some (.table "staff")
  wheres := [⟨.inQuery "department" (.query {
    source := some (.table "departments")
    wheres := [⟨.compare "open" .eq (.value (.int 2)), .and, false⟩] }) false, .and, false⟩]
  orders := [.raw "pay * ?" [.int 3]]
  groupLimit := some ⟨1, "department"⟩

theorem highestPaid_regular : highestPaid.Regular { dialect := .postgres } := by
  have isOpen : Condition.Sound { dialect := .postgres } (.compare "open" .eq (.value (.int 2))) :=
    .compare (PlainText.of_chars rfl) True.intro
  have departments : Query.Sound { dialect := .postgres } {
      source := some (.table "departments")
      wheres := [⟨.compare "open" .eq (.value (.int 2)), .and, false⟩] } := by
    constructor
    case source => simpa using Source.Sound.table (PlainText.of_chars rfl)
    case wheres => simpa using Predicate.Sound.intro isOpen
    case distinct => exact True.intro
    all_goals simp
  have order : (Order.raw "pay * ?" [.int 3]).Sound .postgres := Dialect.holds_scan rfl rfl
  refine ⟨?_, ⟨fun _ => rfl, fun _ => rfl, by simp [highestPaid]⟩⟩
  unfold highestPaid
  constructor
  case columns => simpa using ⟨.column (PlainText.of_chars rfl), .raw (Dialect.holds_scan rfl rfl)⟩
  case source => simpa using Source.Sound.table (PlainText.of_chars rfl)
  case wheres =>
    simpa using Predicate.Sound.intro (.inQuery (PlainText.of_chars rfl) (.query departments
      ⟨fun _ => rfl, fun _ => rfl, by simp⟩))
  case orders => simpa using order
  case groupLimit => simpa using PlainText.of_chars rfl
  case distinct => exact True.intro
  all_goals simp

/-- The rows are numbered in their order before conditions pick some, so the value of the order is the second. -/
theorem highestPaid_aligned :
    (∃ st, highestPaid.selectStatement { dialect := .postgres } = .ok st ∧
      st.bindings = [.int 1, .int 3, .int 2] ∧ highestPaid.AlignedIn { dialect := .postgres } st) ∧
    ∃ st, insertFrom { dialect := .postgres } { source := some (.table "archive") } ["name", "pay"] highestPaid =
      .ok st ∧ st.bindings = [.int 1, .int 3, .int 2] ∧ highestPaid.AlignedIn { dialect := .postgres } st := by
  obtain ⟨rows, compiled⟩ : ∃ rows, highestPaid.sql { dialect := .postgres } = .ok rows := ⟨_, rfl⟩
  obtain ⟨selected, -, inserted⟩ :=
    rows_aligned (t := { dialect := .postgres }) (PlainText.of_chars rfl) highestPaid_regular
  have intoArchive := inserted { source := some (.table "archive") } ["name", "pay"]
    (fun name same => by cases same; exact PlainText.of_chars rfl)
    (by simpa using ⟨PlainText.of_chars rfl, PlainText.of_chars rfl⟩)
  refine ⟨?_, ?_⟩
  · rw [selectStatement, compiled] at selected ⊢
    exact selected.finished
  · rw [insertFrom, compiled] at intoArchive ⊢
    exact intoArchive.finished

end Query

end SqlCompiler
