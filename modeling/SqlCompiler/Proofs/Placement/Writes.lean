import SqlCompiler.Proofs.Placement.Assignments
import SqlCompiler.Proofs.Placement.Selects

namespace SqlCompiler

namespace Sql

theorem append_empty (s : Sql) : s ++ empty = s := congrArg mk (List.append_nil _)

/-- The SQL holds a part, with SQL that binds these values before it and after it. -/
def Around (d : Dialect) (first later : List Value) (s part : Sql) : Prop :=
  ∃ before after, s = before ++ part ++ after ∧ before.Binds d first ∧ after.Binds d later

theorem concat_cons_empty {part : Sql} (parts : List Sql) (nothing : part.isEmpty) :
    concat (part :: parts) = concat parts := by
  rw [concat, List.filter_cons_of_neg (by simp [nothing])]
  rfl

theorem concat_cons (d : Dialect) {part : Sql} (parts : List Sql) (written : part.isEmpty = false) :
    ∃ space : Sql, concat (part :: parts) = part ++ space ++ concat parts ∧ space.Binds d [] := by
  unfold concat
  rw [List.filter_cons_of_pos (by simp [written])]
  cases parts.filter fun other => !other.isEmpty with
  | nil => exact ⟨empty, by simp only [join, append_empty], Binds.empty d⟩
  | cons next rest => exact ⟨ofText " ", rfl, Binds.ofText (Dialect.inert_chars rfl)⟩

namespace Around

variable {d : Dialect} {part s other : Sql} {first later values : List Value}

theorem here (d : Dialect) (part : Sql) : part.Around d [] [] part :=
  ⟨empty, empty, (append_empty part).symm, Binds.empty d, Binds.empty d⟩

theorem append (around : s.Around d first later part) (binds : other.Binds d values) :
    (s ++ other).Around d first (later ++ values) part := by
  obtain ⟨before, after, rfl, opens, closes⟩ := around
  exact ⟨before, after ++ other, append_assoc _ _ _, opens, closes.append binds⟩

theorem prepend (around : s.Around d first later part) (binds : other.Binds d values) :
    (other ++ s).Around d (values ++ first) later part := by
  obtain ⟨before, after, rfl, opens, closes⟩ := around
  exact ⟨other ++ before, after, by simp only [append_assoc], binds.append opens, closes⟩

theorem binds (around : s.Around d first later part) (inside : part.Binds d values) :
    s.Binds d (first ++ values ++ later) := by
  obtain ⟨before, after, rfl, opens, closes⟩ := around
  exact (opens.append inside).append closes

theorem concat {parts rest : List Sql} {front back : List Value} (around : s.Around d first later part)
    (written : s.isEmpty = false) (left : BindsAll d front parts) (right : BindsAll d back rest) :
    (Sql.concat (parts ++ s :: rest)).Around d (front ++ first) (later ++ back) part := by
  obtain ⟨sound, rfl⟩ := left
  induction parts with
  | nil =>
    obtain ⟨space, whole, blank⟩ := concat_cons d rest written
    rw [List.nil_append, whole]
    simpa using (around.append blank).append right.concat
  | cons other parts ih =>
    have tail := ih fun part member => sound part (List.mem_cons_of_mem _ member)
    have holds := sound other (by simp)
    -- A part that writes nothing binds nothing either, so it may be left out on both sides.
    cases nothing : other.isEmpty with
    | true =>
      rw [List.cons_append, concat_cons_empty _ nothing, List.flatMap_cons, holds.values_of_isEmpty nothing]
      exact tail
    | false =>
      obtain ⟨space, whole, blank⟩ := concat_cons d (parts ++ s :: rest) nothing
      have head : other.Binds d other.values := ⟨holds, rfl⟩
      rw [List.cons_append, whole, List.flatMap_cons]
      simpa using tail.prepend (head.append blank)

end Around

end Sql

namespace Query

def valuesBefore (t : Target) (q : Query) : List Value :=
  match t.dialect with
  | .mysql => joinBindings t.numbersRows q.joins
  | .postgres | .sqlite | .sqlServer => []

def valuesAfter (t : Target) (q : Query) : List Value :=
  let wheres := clauseBindings t.numbersRows q.wheres
  match t.dialect with
  | .mysql => if q.joins.isEmpty then wheres ++ q.orders.flatMap Order.bindings else wheres
  | .sqlServer => joinBindings t.numbersRows q.joins ++ wheres
  | .postgres | .sqlite => if q.isPlainTarget then wheres else rowValues t.numbersRows { q with columns := [] }

section

variable {t : Target} (plainPrefix : PlainText t.tablePrefix) {q : Query} (sound : q.Sound t)
include plainPrefix sound

theorem plainUpdate_around (assignments : Sql) :
    Compiles (fun s => s.Around t.dialect [] (clauseBindings t.numbersRows q.wheres) assignments)
      (q.plainUpdate t assignments) := by
  unfold plainUpdate
  apply (targetTable_plain sound).bind
  intro name plain
  have table := Target.table_inert plainPrefix plain
  have head : (Sql.ofText "UPDATE " ++ Sql.ofText (t.table name) ++ Sql.ofText " SET ").Binds t.dialect [] :=
    (Sql.Binds.ofText table).within rfl rfl
  apply (wheresSql_binds plainPrefix sound).map
  intro wheres binds
  have part := (Sql.Around.here t.dialect assignments).prepend head
  simpa using part.concat (by simp [Sql.isEmpty]) (BindsAll.nil t.dialect)
    (BindsAll.cons binds (BindsAll.nil t.dialect))

theorem keyedUpdate_around (ordered : q.unions = [] → q.unionOrders = []) (assignments : Sql) {key : String}
    (plainKey : PlainText key) :
    Compiles (fun s => s.Around t.dialect [] (rowValues t.numbersRows { q with columns := [] }) assignments)
      (q.keyedUpdate t assignments key) := by
  unfold keyedUpdate
  apply (targetTable_plain sound).bind
  intro name plain
  have table := Target.table_inert plainPrefix plain
  have head : (Sql.ofText "UPDATE " ++ Sql.ofText (t.table name) ++ Sql.ofText " SET ").Binds t.dialect [] :=
    (Sql.Binds.ofText table).within rfl rfl
  have word : (Sql.ofText " WHERE ").Binds t.dialect [] := Sql.Binds.ofText (Dialect.inert_chars rfl)
  apply (keyTest_binds plainPrefix sound ordered plain plainKey).map
  intro keys binds
  exact (((Sql.Around.here t.dialect assignments).prepend head).append word).append binds

theorem mysqlUpdate_around (mysql : t.dialect = .mysql) (assignments : Sql) :
    Compiles (fun s => s.Around t.dialect (q.valuesBefore t) (q.valuesAfter t) assignments)
      (q.mysqlUpdate t assignments) := by
  have order := writeOrder_binds plainPrefix sound
  unfold mysqlUpdate valuesBefore valuesAfter
  rw [mysql] at order ⊢
  apply (targetTable_plain sound).bind
  intro name plain
  have table := Target.table_inert plainPrefix plain
  have wheres := wheresSql_binds plainPrefix sound
  have joined := joinsSql_binds plainPrefix sound
  rw [mysql] at table wheres joined
  simp only
  split
  · rename_i nothing
    rw [List.isEmpty_iff.mp nothing, joinBindings]
    have head : (Sql.ofText "UPDATE " ++ Sql.ofText (t.table name) ++ Sql.ofText " SET ").Binds .mysql [] :=
      (Sql.Binds.ofText table).within rfl rfl
    apply wheres.map
    intro conditions binds
    have part := (Sql.Around.here .mysql assignments).prepend head
    simpa using part.concat (by simp [Sql.isEmpty]) (BindsAll.nil .mysql)
      (BindsAll.cons binds (BindsAll.cons order (BindsAll.nil .mysql)))
  · have head : (Sql.ofText "UPDATE " ++ Sql.ofText (t.table name)).Binds .mysql [] :=
      (Sql.Binds.ofText table).afterPlain rfl
    apply joined.bind
    intro joins joinsBind
    apply wheres.map
    intro conditions binds
    have word : (Sql.ofText "SET ").Binds .mysql [] := Sql.Binds.ofText (Dialect.inert_chars rfl)
    have part := (Sql.Around.here .mysql assignments).prepend word
    simpa using part.concat (by simp [Sql.isEmpty])
      (BindsAll.cons head (BindsAll.cons joinsBind (BindsAll.nil .mysql)))
      (BindsAll.cons binds (BindsAll.nil .mysql))

theorem sqlServerUpdate_around (sqlServer : t.dialect = .sqlServer) (assignments : Sql) :
    Compiles (fun s => s.Around t.dialect (q.valuesBefore t) (q.valuesAfter t) assignments)
      (q.sqlServerUpdate t assignments) := by
  unfold sqlServerUpdate valuesBefore valuesAfter
  rw [sqlServer]
  apply (targetTable_plain sound).bind
  intro name plain
  have top := topWord_inert .sqlServer q
  have table := Target.table_inert plainPrefix plain
  have label := Target.table_inert plainPrefix plain.aliasOf
  have wheres := wheresSql_binds plainPrefix sound
  have joined := joinsSql_binds plainPrefix sound
  rw [sqlServer] at table label wheres joined
  have head {target : String} (inert : Dialect.Inert .sqlServer target) :
      (Sql.ofText "UPDATE " ++ Sql.ofText q.topWord ++ Sql.ofText target ++ Sql.ofText " SET ").Binds .sqlServer [] :=
    (((Sql.Binds.ofText top).afterPlain rfl).before inert).beforePlain rfl
  simp only
  split
  · rename_i nothing
    rw [List.isEmpty_iff.mp nothing, joinBindings]
    apply wheres.map
    intro conditions binds
    have part := (Sql.Around.here .sqlServer assignments).prepend (head table)
    simpa using part.concat (by simp [Sql.isEmpty]) (BindsAll.nil .sqlServer)
      (BindsAll.cons binds (BindsAll.nil .sqlServer))
  · apply joined.bind
    intro joins joinsBind
    apply wheres.map
    intro conditions binds
    have word : (Sql.ofText " FROM ").Binds .sqlServer [] := Sql.Binds.ofText (Dialect.inert_chars rfl)
    have part := (((Sql.Around.here .sqlServer assignments).prepend (head label)).append word).append
      (Sql.Binds.ofText table)
    simpa using part.concat (by simp [Sql.isEmpty]) (BindsAll.nil .sqlServer)
      (BindsAll.cons joinsBind (BindsAll.cons binds (BindsAll.nil .sqlServer)))

theorem updateSql_around (ordered : q.unions = [] → q.unionOrders = []) (assignments : Sql) :
    Compiles (fun s => s.Around t.dialect (q.valuesBefore t) (q.valuesAfter t) assignments)
      (q.updateSql t assignments) := by
  have plain := plainUpdate_around plainPrefix sound assignments
  have keyed {key : String} (plainKey : PlainText key) :=
    keyedUpdate_around plainPrefix sound ordered assignments plainKey
  cases dialect : t.dialect with
  | mysql => simpa [updateSql, dialect] using mysqlUpdate_around plainPrefix sound dialect assignments
  | sqlServer => simpa [updateSql, dialect] using sqlServerUpdate_around plainPrefix sound dialect assignments
  | postgres =>
    simp only [updateSql, valuesBefore, valuesAfter, dialect] at plain keyed ⊢
    split
    · exact plain
    · exact keyed (PlainText.of_chars rfl)
  | sqlite =>
    simp only [updateSql, valuesBefore, valuesAfter, dialect] at plain keyed ⊢
    split
    · exact plain
    · exact keyed (PlainText.of_chars rfl)

theorem plainDelete_binds :
    Compiles (Sql.Binds t.dialect (clauseBindings t.numbersRows q.wheres)) (q.plainDelete t) := by
  unfold plainDelete
  apply (targetTable_plain sound).bind
  intro name plain
  have table := Sql.Binds.ofText (Target.table_inert plainPrefix plain)
  apply (wheresSql_binds plainPrefix sound).map
  intro wheres binds
  simpa using (BindsAll.cons (table.afterPlain rfl)
    (BindsAll.cons binds (BindsAll.nil t.dialect))).concat

theorem keyedDelete_binds (ordered : q.unions = [] → q.unionOrders = []) {key : String} (plainKey : PlainText key) :
    Compiles (Sql.Binds t.dialect (rowValues t.numbersRows { q with columns := [] })) (q.keyedDelete t key) := by
  unfold keyedDelete
  apply (targetTable_plain sound).bind
  intro name plain
  have table := Sql.Binds.ofText (Target.table_inert plainPrefix plain)
  apply (keyTest_binds plainPrefix sound ordered plain plainKey).map
  intro keys binds
  exact (table.within rfl rfl).append binds

theorem mysqlDelete_binds (mysql : t.dialect = .mysql) :
    Compiles (Sql.Binds t.dialect (q.valuesBefore t ++ q.valuesAfter t)) (q.mysqlDelete t) := by
  have order := writeOrder_binds plainPrefix sound
  have wheres := wheresSql_binds plainPrefix sound
  have joined := joinsSql_binds plainPrefix sound
  unfold mysqlDelete valuesBefore valuesAfter
  rw [mysql] at order wheres joined ⊢
  apply (targetTable_plain sound).bind
  intro name plain
  have table := Target.table_inert plainPrefix plain
  have label := Target.table_inert plainPrefix plain.aliasOf
  rw [mysql] at table label
  simp only
  split
  · rename_i nothing
    rw [List.isEmpty_iff.mp nothing, joinBindings]
    have head : (Sql.ofText "DELETE FROM " ++ Sql.ofText (t.table name)).Binds .mysql [] :=
      (Sql.Binds.ofText table).afterPlain rfl
    apply wheres.map
    intro conditions binds
    simpa using (BindsAll.cons head (BindsAll.cons binds (BindsAll.cons order (BindsAll.nil .mysql)))).concat
  · have head : (Sql.ofText "DELETE " ++ Sql.ofText (t.table (aliasOf name)) ++ Sql.ofText " FROM " ++
        Sql.ofText (t.table name)).Binds .mysql [] :=
      ((Sql.Binds.ofText label).within rfl rfl).before table
    apply joined.bind
    intro joins joinsBind
    apply wheres.map
    intro conditions binds
    simpa using (BindsAll.cons head (BindsAll.cons joinsBind (BindsAll.cons binds (BindsAll.nil .mysql)))).concat

theorem sqlServerDelete_binds (sqlServer : t.dialect = .sqlServer) :
    Compiles (Sql.Binds t.dialect (q.valuesBefore t ++ q.valuesAfter t)) (q.sqlServerDelete t) := by
  have wheres := wheresSql_binds plainPrefix sound
  have joined := joinsSql_binds plainPrefix sound
  unfold sqlServerDelete valuesBefore valuesAfter
  rw [sqlServer] at wheres joined ⊢
  apply (targetTable_plain sound).bind
  intro name plain
  have table := Target.table_inert plainPrefix plain
  have label := Target.table_inert plainPrefix plain.aliasOf
  have top := topWord_inert .sqlServer q
  rw [sqlServer] at table label
  simp only
  split
  · rename_i nothing
    rw [List.isEmpty_iff.mp nothing, joinBindings]
    have head : (Sql.ofText "DELETE " ++ Sql.ofText q.topWord ++ Sql.ofText "FROM " ++
        Sql.ofText (t.table name)).Binds .sqlServer [] :=
      ((Sql.Binds.ofText top).within rfl rfl).before table
    apply wheres.map
    intro conditions binds
    simpa using (BindsAll.cons head (BindsAll.cons binds (BindsAll.nil .sqlServer))).concat
  · have head : (Sql.ofText "DELETE " ++ Sql.ofText q.topWord ++ Sql.ofText (t.table (aliasOf name)) ++
        Sql.ofText " FROM " ++ Sql.ofText (t.table name)).Binds .sqlServer [] :=
      ((((Sql.Binds.ofText top).afterPlain rfl).before label).beforePlain rfl).before table
    apply joined.bind
    intro joins joinsBind
    apply wheres.map
    intro conditions binds
    simpa using (BindsAll.cons head (BindsAll.cons joinsBind (BindsAll.cons binds (BindsAll.nil .sqlServer)))).concat

theorem deleteSql_binds (ordered : q.unions = [] → q.unionOrders = []) :
    Compiles (Sql.Binds t.dialect (q.valuesBefore t ++ q.valuesAfter t)) (q.deleteSql t) := by
  have plain := plainDelete_binds plainPrefix sound
  have keyed {key : String} (plainKey : PlainText key) := keyedDelete_binds plainPrefix sound ordered plainKey
  cases dialect : t.dialect with
  | mysql => simpa [deleteSql, dialect] using mysqlDelete_binds plainPrefix sound dialect
  | sqlServer => simpa [deleteSql, dialect] using sqlServerDelete_binds plainPrefix sound dialect
  | postgres =>
    simp only [deleteSql, valuesBefore, valuesAfter, dialect, List.nil_append] at plain keyed ⊢
    split
    · exact plain
    · exact keyed (PlainText.of_chars rfl)
  | sqlite =>
    simp only [deleteSql, valuesBefore, valuesAfter, dialect, List.nil_append] at plain keyed ⊢
    split
    · exact plain
    · exact keyed (PlainText.of_chars rfl)

end

end Query

end SqlCompiler
