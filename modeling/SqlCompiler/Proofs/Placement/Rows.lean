import SqlCompiler.Proofs.Placement.Assembly

namespace SqlCompiler

namespace Query

theorem flatten_usualOrder (numbersRows : Bool) (q : Query) :
    (q.buckets numbersRows).flatten Bucket.usualOrder =
      selectionBindings numbersRows q.columns ++ sourceBindings numbersRows q.source ++
        joinBindings numbersRows q.joins ++ clauseBindings numbersRows q.wheres ++
        q.groups.flatMap Grouping.bindings ++ clauseBindings numbersRows q.havings ++
        q.orders.flatMap Order.bindings ++ unionBindings numbersRows q.unions ++
        q.unionOrders.flatMap Order.bindings := by
  cases q
  simp [Bindings.flatten, Bucket.usualOrder, Query.buckets]

theorem flatten_numberedOrder (numbersRows : Bool) (q : Query) :
    (q.buckets numbersRows).flatten Bucket.numberedOrder =
      selectionBindings numbersRows q.columns ++ q.orders.flatMap Order.bindings ++
        sourceBindings numbersRows q.source ++ joinBindings numbersRows q.joins ++
        clauseBindings numbersRows q.wheres ++ q.groups.flatMap Grouping.bindings ++
        clauseBindings numbersRows q.havings ++ unionBindings numbersRows q.unions ++
        q.unionOrders.flatMap Order.bindings := by
  cases q
  simp [Bindings.flatten, Bucket.numberedOrder, Query.buckets]

def bodyValues (numbersRows : Bool) (q : Query) : List Value :=
  sourceBindings numbersRows q.source ++ joinBindings numbersRows q.joins ++ clauseBindings numbersRows q.wheres ++
    q.groups.flatMap Grouping.bindings ++ clauseBindings numbersRows q.havings

/-- The values that the rows of a query need, in the order in which they are written. -/
def rowValues (numbersRows : Bool) (q : Query) : List Value :=
  if q.groupLimit.isNone then
    selectionBindings numbersRows q.columns ++ q.bodyValues numbersRows ++ q.orders.flatMap Order.bindings ++
      unionBindings numbersRows q.unions ++ q.unionOrders.flatMap Order.bindings
  else if numbersRows then
    selectionBindings numbersRows q.columns ++ q.orders.flatMap Order.bindings ++ q.bodyValues numbersRows
  else
    selectionBindings numbersRows q.columns ++ q.bodyValues numbersRows ++ q.orders.flatMap Order.bindings

theorem Places.rowValues_eq {numbersRows : Bool} {q : Query} (places : q.Places numbersRows) :
    q.rowValues numbersRows = q.bindings numbersRows := by
  rw [Query.bindings, bucketOrder, rowValues]
  cases limited : q.groupLimit with
  | none => simp [flatten_usualOrder, bodyValues]
  | some g =>
    have alone : q.unions = [] := places.groupLimit (by simp [limited])
    have unordered := places.unionOrders alone
    cases numbersRows with
    | true => simp [flatten_numberedOrder, bodyValues, alone, unordered, unionBindings]
    | false => simp [flatten_usualOrder, bodyValues, alone, unordered, unionBindings]

theorem rowValues_withoutAggregate (numbersRows : Bool) (q : Query) :
    ({ q with aggregate := none } : Query).rowValues numbersRows = q.rowValues numbersRows := by
  cases q
  rfl

theorem Sound.withoutAggregate {t : Target} {q : Query} (sound : q.Sound t) :
    Query.Sound t { q with aggregate := none } := by
  obtain ⟨_, columns, distinct, source, hint, joins, wheres, groups, havings, orders, limit, unions, unionOrders,
    lock⟩ := sound
  exact .intro (by simp) columns distinct source hint joins wheres groups havings orders limit unions unionOrders lock

theorem Sound.withoutGroupLimit {t : Target} {q : Query} (sound : q.Sound t) {orders : List Order}
    (ordered : ∀ order ∈ orders, order.Sound t.dialect) :
    Query.Sound t { q with groupLimit := none, offset := none, orders } := by
  obtain ⟨aggregate, columns, distinct, source, hint, joins, wheres, groups, havings, _, _, unions, unionOrders,
    lock⟩ := sound
  exact .intro aggregate columns distinct source hint joins wheres groups havings ordered (by simp) unions
    unionOrders lock

theorem Sound.joins {t : Target} {q : Query} (sound : q.Sound t) : ∀ join ∈ q.joins, join.Sound t := by
  cases sound
  assumption

theorem Sound.wheres {t : Target} {q : Query} (sound : q.Sound t) : ∀ p ∈ q.wheres, p.Sound t := by
  cases sound
  assumption

theorem Sound.orders {t : Target} {q : Query} (sound : q.Sound t) : ∀ order ∈ q.orders, order.Sound t.dialect := by
  cases sound
  assumption

theorem Sound.unionOrders {t : Target} {q : Query} (sound : q.Sound t) :
    ∀ order ∈ q.unionOrders, order.Sound t.dialect := by
  cases sound
  assumption

theorem Sound.limitedBy {t : Target} {q : Query} (sound : q.Sound t) : ∀ g ∈ q.groupLimit, PlainText g.column := by
  cases sound
  assumption

theorem Sound.aggregateNames {t : Target} {q : Query} (sound : q.Sound t) :
    ∀ a ∈ q.aggregate, ∀ name ∈ a.columns, PlainText name := by
  cases sound
  assumption

end Query

namespace Target

section

variable {t : Target} (plainPrefix : PlainText t.tablePrefix)
include plainPrefix

theorem rowNumber_binds {column : String} {orders : Sql} {values : List Value} (plain : PlainText column)
    (binds : orders.Binds t.dialect values) : (t.rowNumber column orders).Binds t.dialect values := by
  have partition : (Sql.ofText "PARTITION BY " ++ Sql.ofText (t.column column) ++ Sql.ofText " ").Binds t.dialect [] :=
    (Sql.Binds.ofText (column_inert plainPrefix plain)).within rfl rfl
  have row := quoteName_inert (s := "group_row") (PlainText.of_chars rfl) t.dialect
  have numbered (window : Sql) (inside : window.Binds t.dialect values) :
      (Sql.ofText ", ROW_NUMBER() OVER (" ++ window ++ Sql.ofText ") AS " ++
        Sql.ofText (t.dialect.quoteName "group_row")).Binds t.dialect values :=
    (inside.within rfl rfl).before row
  unfold rowNumber
  apply numbered
  split
  · refine partition.append ?_
    split
    · rename_i nothing
      rw [← binds.values_eq, binds.sound.values_of_isEmpty nothing]
      exact Sql.Binds.ofText (anyOrder_inert t.dialect)
    · exact binds
  · have window := partition.append binds
    exact ⟨window.sound.trimEnd, by rw [Sql.values_trimEnd, window.values_eq]; rfl⟩

omit plainPrefix in
theorem rowRange_inert (g : GroupLimit) (offset : Option UInt64) : t.dialect.Inert (t.rowRange g offset) := by
  have row := quoteName_inert (s := "group_row") (PlainText.of_chars rfl) t.dialect
  have last := Nat.toString_inert t.dialect (lastRow g offset)
  unfold rowRange
  refine Dialect.Inert.append (.append (.append ?_ ?_) (Dialect.inert_chars rfl)) row
  · exact (row.append (Dialect.inert_chars rfl)).append last
  · split
    · exact Dialect.inert_chars rfl
    · rename_i m
      exact ((Dialect.inert_chars rfl |>.append row).append (Dialect.inert_chars rfl)).append
        (Nat.toString_inert t.dialect m.toNat)

theorem numberedGroups_binds {q : Query} {g : GroupLimit} {p : Parts} (sound : q.Sound t) (plain : PlainText g.column)
    (parts : p.Binds t q) (aggregate : q.aggregate.isSome → selectionBindings t.numbersRows q.columns = []) :
    Compiles (Sql.Binds t.dialect (selectionBindings t.numbersRows q.columns ++ q.orders.flatMap Order.bindings ++
      q.bodyValues t.numbersRows)) (t.numberedGroups q g p) := by
  have single : Query.Sound t { q with groupLimit := none, offset := none } := sound.withoutGroupLimit sound.orders
  have inner : p.Binds t { q with groupLimit := none, offset := none } := ⟨parts.columns, parts.source, parts.joins,
    parts.wheres, parts.havings, parts.unions⟩
  have table := quoteName_inert (s := "group_table") (PlainText.of_chars rfl) t.dialect
  unfold numberedGroups
  apply (components_binds plainPrefix single inner aggregate).map
  intro c binds
  have numbers := binds.columns.append (rowNumber_binds plainPrefix plain binds.orders)
  have numbered : Sql.Binds t.dialect (selectionBindings t.numbersRows q.columns ++
      q.orders.flatMap Order.bindings ++ q.bodyValues t.numbersRows)
      (Components.sql { c with columns := c.columns ++ t.rowNumber g.column c.orders, orders := .empty }) := by
    have whole := Components.sql_binds
      (c := { c with columns := c.columns ++ t.rowNumber g.column c.orders, orders := .empty })
      (Components.named_sound binds.aggregate.sound numbers.sound binds.source.sound
      binds.indexHint.sound binds.joins.sound binds.wheres.sound binds.groups.sound binds.havings.sound
      (Sql.sound_empty t.dialect) binds.paging binds.lock.sound) binds.paging
    simpa [Query.bodyValues, binds.aggregate.values_eq, numbers.values_eq, binds.source.values_eq,
      binds.indexHint.values_eq, binds.joins.values_eq, binds.wheres.values_eq, binds.groups.values_eq,
      binds.havings.values_eq, binds.lock.values_eq] using whole
  exact (((numbered.within rfl rfl).before table).beforePlain rfl).before (t.rowRange_inert g q.offset)

theorem countedGroups_binds {q : Query} {g : GroupLimit} {p : Parts} (sound : q.Sound t) (plain : PlainText g.column)
    (parts : p.Binds t q) (aggregate : q.aggregate.isSome → selectionBindings t.numbersRows q.columns = []) :
    Compiles (Sql.Binds t.dialect (selectionBindings t.numbersRows q.columns ++ q.bodyValues t.numbersRows ++
      q.orders.flatMap Order.bindings)) (t.countedGroups q g p) := by
  have ordered : ∀ order ∈ Order.column g.column .asc :: q.orders, order.Sound t.dialect := by
    intro order member
    rcases List.mem_cons.mp member with rfl | member
    · exact plain
    · exact sound.orders order member
  have inner : p.Binds t { q with
      groupLimit := none, offset := none, orders := Order.column g.column .asc :: q.orders } :=
    ⟨parts.columns, parts.source, parts.joins, parts.wheres, parts.havings, parts.unions⟩
  have key := quoteName_inert (s := Text.lastPart '.' g.column) plain.lastPart t.dialect
  have name {s : String} (plainName : PlainText s) := quoteName_inert plainName t.dialect
  have row := name (s := "group_row") (PlainText.of_chars rfl)
  have table := name (s := "group_table") (PlainText.of_chars rfl)
  have start := name (s := "group_variables") (PlainText.of_chars rfl)
  have range := t.rowRange_inert g q.offset
  unfold countedGroups
  apply (components_binds plainPrefix (sound.withoutGroupLimit ordered) inner aggregate).map
  intro c binds
  obtain ⟨inside, values⟩ := binds.sql
  refine ⟨?_, ?_⟩
  · simp only [Sql.sound_append, Sql.sound_ofText]
    and_intros
    all_goals first
      | with_reducible assumption
      | exact Dialect.inert_chars rfl
  · simp only [Sql.values_append, Sql.values_ofText, List.nil_append, List.append_nil]
    rw [values, List.flatMap_cons]
    simp [Query.bodyValues, Order.bindings]

theorem limitedGroups_binds {q : Query} {g : GroupLimit} {p : Parts} (sound : q.Sound t)
    (limited : q.groupLimit = some g) (parts : p.Binds t q)
    (aggregate : q.aggregate.isSome → selectionBindings t.numbersRows q.columns = []) :
    Compiles (Sql.Binds t.dialect (q.rowValues t.numbersRows)) (t.limitedGroups q g p) := by
  have plain := sound.limitedBy g limited
  unfold limitedGroups
  split
  · exact Compiles.unsupported t _
  · rw [Query.rowValues, if_neg (by simp [limited])]
    by_cases numbers : t.numbersRows
    · rw [if_pos numbers, if_pos numbers]
      exact numberedGroups_binds plainPrefix sound plain parts aggregate
    · rw [if_neg numbers, if_neg numbers]
      exact countedGroups_binds plainPrefix sound plain parts aggregate

theorem temporaryTable_inert : t.dialect.Inert (t.table "temp_table") :=
  table_inert plainPrefix (PlainText.of_chars rfl)

theorem unionMember_binds {sql : Sql} {values : List Value} (binds : sql.Binds t.dialect values) :
    (t.unionMember sql).Binds t.dialect values := by
  have table := temporaryTable_inert plainPrefix
  unfold unionMember
  split
  · exact binds.within rfl rfl
  · exact binds.within rfl rfl
  · exact binds.within rfl rfl
  · exact (binds.within rfl rfl).before table

theorem unionTail_binds {q : Query} {members : List Sql} {values : List Value}
    (orders : ∀ order ∈ q.unionOrders, order.Sound t.dialect) (binds : BindsAll t.dialect values members) :
    (t.unionTail q members).Binds t.dialect (values ++ q.unionOrders.flatMap Order.bindings) := by
  have order : BindsAll t.dialect (q.unionOrders.flatMap Order.bindings)
      (if q.unionOrders.isEmpty then [] else [t.orderBy q.unionOrders]) := by
    split
    · rename_i nothing
      rw [List.isEmpty_iff.mp nothing]
      exact BindsAll.nil t.dialect
    · simpa using BindsAll.cons (orderBy_binds plainPrefix orders) (BindsAll.nil t.dialect)
  have paging := BindsAll.texts (t.unionPaging_inert q)
  have whole := (binds.append order).append paging
  rw [List.append_nil] at whole
  exact whole.join (Dialect.inert_chars rfl)

theorem rows_binds {q : Query} {p : Parts} (sound : q.Sound t) (ordered : q.unions = [] → q.unionOrders = [])
    (parts : p.Binds t q) (aggregate : q.aggregate.isSome → selectionBindings t.numbersRows q.columns = []) :
    Compiles (Sql.Binds t.dialect (q.rowValues t.numbersRows)) (t.rows q p) := by
  unfold rows
  split
  · rename_i g found
    exact limitedGroups_binds plainPrefix sound found parts aggregate
  · rename_i free
    rw [Query.rowValues, free, Option.isNone_none, if_pos rfl]
    apply (components_binds plainPrefix sound parts aggregate).bind
    intro c binds
    split
    · rename_i nothing
      have alone := List.isEmpty_iff.mp nothing
      have whole := binds.sql
      simp only [alone, ordered alone, unionBindings, List.flatMap_nil, List.append_nil]
      exact .ok (by simpa [Query.bodyValues] using whole)
    · apply parts.unions.map
      intro members all
      have member := unionMember_binds plainPrefix binds.sql
      have tail := unionTail_binds plainPrefix sound.unionOrders all
      simpa [Query.bodyValues] using (member.beforePlain rfl).append tail

theorem assemble_binds {q : Query} {p : Parts} (sound : q.Sound t) (places : q.Places t.numbersRows)
    (parts : p.Binds t q) : Compiles (Sql.Binds t.dialect (q.bindings t.numbersRows)) (t.assemble q p) := by
  rw [← places.rowValues_eq]
  unfold assemble
  split
  · have inner : p.Binds t { q with aggregate := none } :=
      ⟨parts.columns, parts.source, parts.joins, parts.wheres, parts.havings, parts.unions⟩
    have binds := rows_binds plainPrefix sound.withoutAggregate places.unionOrders inner (by simp)
    have table := temporaryTable_inert plainPrefix
    have aggregate := aggregate_binds plainPrefix sound.aggregateNames
    rw [q.rowValues_withoutAggregate] at binds
    apply binds.map
    intro rows inside
    exact (((aggregate.beforePlain rfl).append inside).beforePlain rfl).before table
  · rename_i direct
    exact rows_binds plainPrefix sound places.unionOrders parts fun aggregated => places.aggregate aggregated direct

end

end Target

end SqlCompiler
