import SqlCompiler.Proofs.Placement.Nested
import SqlCompiler.Write.Change

namespace SqlCompiler

def Record.Sound (d : Dialect) (r : Record) : Prop :=
  ∀ entry ∈ r.entries, PlainText entry.1 ∧ entry.2.Sound d

namespace Target

section

variable {t : Target}

theorem storedSql_binds {value : Operand} (sound : value.Sound t.dialect) (column : String)
    (arrow : Text.hasArrow column) : (t.storedSql value).Binds t.dialect (t.assigned column value) := by
  cases value with
  | raw sql => exact Sql.Binds.raw sound
  | value v =>
    have bound := Sql.Binds.param t.dialect (t.stored v)
    simp only [storedSql, assigned, arrow, if_true]
    split
    · split
      · exact bound
      · rename_i mysql
        have document : t.dialect.Inert ", '$')" := by
          rw [mysql]
          exact Dialect.inert_scan rfl rfl
        exact (bound.afterPlain rfl).before document
      · exact bound.within rfl rfl
      · exact bound.within rfl rfl
    · exact bound

variable (plainPrefix : PlainText t.tablePrefix)
include plainPrefix

theorem documentAssignment_binds {column : String} {value : Operand} (plain : PlainText column)
    (arrow : Text.hasArrow column) (sound : value.Sound t.dialect) :
    (t.documentAssignment column value).Binds t.dialect (t.assigned column value) := by
  rcases found : Text.fieldAndPath column with ⟨name, path⟩
  have parts := plain.fieldAndPath found
  have field := dotted_inert plainPrefix parts.1
  have literal := jsonPath_inert parts.2 t.dialect
  have bound := storedSql_binds sound column arrow
  have changed {function document path : String} (word : t.dialect.Inert function)
      (inside : t.dialect.Inert document) (place : t.dialect.Inert path) :
      (Sql.ofText (t.dotted name) ++ Sql.ofText " = " ++ Sql.ofText function ++ Sql.ofText "(" ++
        Sql.ofText document ++ Sql.ofText ", " ++ Sql.ofText path ++ Sql.ofText ", " ++ t.storedSql value ++
        Sql.ofText ")").Binds t.dialect (t.assigned column value) := by
    have comma : t.dialect.Inert ", " := Dialect.inert_chars rfl
    have equals : t.dialect.Inert " = " := Dialect.inert_chars rfl
    have called := ((Sql.Binds.ofText field).before equals).before word
    exact ((((((called.beforePlain rfl).before inside).before comma).before place).before comma).append
      bound).beforePlain rfl
  simp only [documentAssignment, found]
  split
  · rename_i postgres
    have place := quoteText_inert (d := t.dialect) (by rw [postgres]; rfl) ("\x7b" ++ ",".intercalate path ++ "\x7d")
    exact changed (Dialect.inert_chars rfl) (field.append (Dialect.inert_chars rfl)) place
  all_goals exact changed (Dialect.inert_chars rfl) field literal

theorem recordAssignment_binds {column : String} {value : Operand} (plain : PlainText column)
    (sound : value.Sound t.dialect) :
    (t.recordAssignment column value).Binds t.dialect (t.assigned column value) := by
  unfold recordAssignment
  split
  · rename_i arrow
    exact documentAssignment_binds plainPrefix plain arrow sound
  · rename_i noArrow
    have name := Sql.Binds.ofText (column_inert plainPrefix plain)
    have values : t.assigned column value = value.bindings := by
      cases value with
      | raw sql => rfl
      | value v => simp [assigned, noArrow, Operand.bindings]
    rw [values]
    exact (name.beforePlain rfl).append (Operand.sql_binds sound)

theorem recordAssignments_binds {r : Record} (sound : r.Sound t.dialect) :
    (t.recordAssignments r).Binds t.dialect (t.assignedValues r) := by
  have each : ∀ entry ∈ r.entries, (t.recordAssignment entry.1 entry.2).Binds t.dialect
      (t.assigned entry.1 entry.2) :=
    fun entry member => recordAssignment_binds plainPrefix (sound entry member).1 (sound entry member).2
  exact (BindsAll.map each).join (Dialect.inert_chars rfl)

end

end Target

namespace Query

theorem topWord_inert (d : Dialect) (q : Query) : d.Inert q.topWord := by
  unfold topWord
  split
  · exact Dialect.inert_chars rfl
  · exact (Dialect.inert_chars rfl |>.append (Nat.toString_inert d _)).append (Dialect.inert_chars rfl)

section

variable {t : Target} (plainPrefix : PlainText t.tablePrefix) {q : Query} (sound : q.Sound t)
include plainPrefix sound

theorem wheresSql_binds :
    Compiles (Sql.Binds t.dialect (clauseBindings t.numbersRows q.wheres)) (q.wheresSql t) :=
  Target.clauseAfter_binds "WHERE" (Dialect.inert_chars rfl) (Clause.sql_binds plainPrefix sound.wheres)

theorem joinsSql_binds : Compiles (Sql.Binds t.dialect (joinBindings t.numbersRows q.joins)) (q.joinsSql t) :=
  (joinSqls_bind plainPrefix q.joins sound.joins).map fun _ all => all.join (Dialect.inert_chars rfl)

theorem writeOrder_binds : (q.writeOrder t).Binds t.dialect (q.orders.flatMap Order.bindings) := by
  have order := Target.orderBy_binds plainPrefix sound.orders
  have limit : t.dialect.Inert ((q.limit.map Target.limitWord).getD "") := by
    cases q.limit with
    | none => exact Dialect.inert_chars rfl
    | some n => exact limitWord_inert t.dialect n
  have both := BindsAll.cons order (BindsAll.cons (Sql.Binds.ofText limit) (BindsAll.nil t.dialect))
  simpa [writeOrder] using both.concat

omit plainPrefix in
theorem targetTable_plain : Compiles PlainText q.targetTable := by
  obtain ⟨_, _, _, source, _, _, _, _, _, _, _, _, _, _⟩ := sound
  unfold targetTable
  split
  · rename_i name found
    obtain ⟨source', inQuery, isTable⟩ := Option.bind_eq_some_iff.mp found
    cases source source' inQuery with
    | table plain =>
      cases isTable
      exact .ok plain
    | raw _ => cases isTable
    | derived _ _ _ => cases isTable
  · exact .error fun _ _ => Error.noConfusion

theorem keyTest_binds (ordered : q.unions = [] → q.unionOrders = []) {table key : String} (plainTable : PlainText table)
    (plainKey : PlainText key) :
    Compiles (Sql.Binds t.dialect (({ q with columns := [] } : Query).rowValues t.numbersRows))
      (q.keyTest t table key) := by
  have name : PlainText (aliasOf table ++ "." ++ key) :=
    (plainTable.aliasOf.append (PlainText.of_chars rfl)).append plainKey
  have inert := quoteName_inert plainKey t.dialect
  obtain ⟨_, _, distinct, source, hint, joins, wheres, groups, havings, orders, limit, unions, unionOrders, lock⟩ :=
    sound
  have picked : Query.Sound t { q with columns := [.column (aliasOf table ++ "." ++ key)], aggregate := none } :=
    .intro (by simp) (by simpa using Selection.Sound.column name) distinct source hint joins wheres groups havings
      orders limit unions unionOrders lock
  have rows := Target.rows_binds plainPrefix picked ordered (Query.parts_bind plainPrefix picked) (by simp)
  have values : ({ q with columns := [.column (aliasOf table ++ "." ++ key)], aggregate := none } : Query).rowValues
      t.numbersRows = ({ q with columns := [] } : Query).rowValues t.numbersRows := by
    cases q
    rfl
  rw [values] at rows
  unfold keyTest
  simp only [Query.sql_eq_assemble, Target.assemble, Target.aggregatesDerived]
  apply rows.map
  intro keys binds
  exact (((Sql.Binds.ofText inert).beforePlain rfl).append binds).beforePlain rfl

end

end Query

end SqlCompiler
