import SqlCompiler.Proofs.Placement.Clauses
import SqlCompiler.Select.Assembly

namespace SqlCompiler

/-- Every part binds the values of its bucket, or fails for a reason of its own. -/
structure Parts.Binds (t : Target) (q : Query) (p : Parts) : Prop where
  columns : Compiles (BindsAll t.dialect (selectionBindings t.numbersRows q.columns)) p.columns
  source : Compiles (Sql.Binds t.dialect (sourceBindings t.numbersRows q.source)) p.source
  joins : Compiles (BindsAll t.dialect (joinBindings t.numbersRows q.joins)) p.joins
  wheres : Compiles (Sql.Binds t.dialect (clauseBindings t.numbersRows q.wheres)) p.wheres
  havings : Compiles (Sql.Binds t.dialect (clauseBindings t.numbersRows q.havings)) p.havings
  unions : Compiles (BindsAll t.dialect (unionBindings t.numbersRows q.unions)) p.unions

structure Components.Binds (t : Target) (q : Query) (c : Components) : Prop where
  aggregate : c.aggregate.Binds t.dialect []
  columns : c.columns.Binds t.dialect (selectionBindings t.numbersRows q.columns)
  source : c.source.Binds t.dialect (sourceBindings t.numbersRows q.source)
  indexHint : c.indexHint.Binds t.dialect []
  joins : c.joins.Binds t.dialect (joinBindings t.numbersRows q.joins)
  wheres : c.wheres.Binds t.dialect (clauseBindings t.numbersRows q.wheres)
  groups : c.groups.Binds t.dialect (q.groups.flatMap Grouping.bindings)
  havings : c.havings.Binds t.dialect (clauseBindings t.numbersRows q.havings)
  orders : c.orders.Binds t.dialect (q.orders.flatMap Order.bindings)
  paging : BindsAll t.dialect [] c.paging
  lock : c.lock.Binds t.dialect []

theorem Components.sql_binds {d : Dialect} {c : Components} (sound : ∀ part ∈ c.named.map Prod.snd, part.Sound d)
    (paging : BindsAll d [] c.paging) :
    c.sql.Binds d (c.aggregate.values ++ c.columns.values ++ c.source.values ++ c.indexHint.values ++
      c.joins.values ++ c.wheres.values ++ c.groups.values ++ c.havings.values ++ c.orders.values ++
      c.lock.values) := by
  refine ⟨Sql.sound_concat sound, ?_⟩
  have pages := paging.values_eq
  rw [Components.sql, Sql.values_concat sound]
  simp [Components.named, List.map_map, Function.comp_def, pages]

theorem Components.named_sound {d : Dialect} {c : Components} (aggregate : c.aggregate.Sound d)
    (columns : c.columns.Sound d) (source : c.source.Sound d) (indexHint : c.indexHint.Sound d)
    (joins : c.joins.Sound d) (wheres : c.wheres.Sound d) (groups : c.groups.Sound d) (havings : c.havings.Sound d)
    (orders : c.orders.Sound d) (paging : BindsAll d [] c.paging) (lock : c.lock.Sound d) :
    ∀ part ∈ c.named.map Prod.snd, part.Sound d := by
  intro part member
  simp only [Components.named, List.map_append, List.map_cons, List.map_nil, List.map_map, Function.comp_def,
    List.map_id', List.mem_append, List.mem_cons, List.not_mem_nil, or_false] at member
  rcases member with (fixed | page) | rfl
  · rcases fixed with rfl | rfl | rfl | rfl | rfl | rfl | rfl | rfl | rfl <;> assumption
  · exact paging.sound part page
  · exact lock

theorem Components.Binds.sql {t : Target} {q : Query} {c : Components} (binds : c.Binds t q) :
    c.sql.Binds t.dialect (selectionBindings t.numbersRows q.columns ++ sourceBindings t.numbersRows q.source ++
      joinBindings t.numbersRows q.joins ++ clauseBindings t.numbersRows q.wheres ++
      q.groups.flatMap Grouping.bindings ++ clauseBindings t.numbersRows q.havings ++
      q.orders.flatMap Order.bindings) := by
  have whole := Components.sql_binds (Components.named_sound binds.aggregate.sound binds.columns.sound
    binds.source.sound binds.indexHint.sound binds.joins.sound binds.wheres.sound binds.groups.sound
    binds.havings.sound binds.orders.sound binds.paging binds.lock.sound) binds.paging
  simpa [binds.aggregate.values_eq, binds.columns.values_eq, binds.source.values_eq, binds.indexHint.values_eq,
    binds.joins.values_eq, binds.wheres.values_eq, binds.groups.values_eq, binds.havings.values_eq,
    binds.orders.values_eq, binds.lock.values_eq] using whole

namespace Target

section

variable {t : Target} (plainPrefix : PlainText t.tablePrefix)
include plainPrefix

theorem selectKeyword_inert {q : Query} (distinct : q.distinct.Sound) : t.dialect.Inert (t.selectKeyword q) := by
  unfold selectKeyword
  split
  · rename_i names _ found
    rw [found] at distinct
    exact (Dialect.inert_chars rfl |>.append (columns_inert plainPrefix distinct)).append (Dialect.inert_chars rfl)
  · apply Dialect.Inert.append
    · split <;> exact Dialect.inert_chars rfl
    · split
      · exact (Dialect.inert_chars rfl).append (Nat.toString_inert _ _)
      · exact Dialect.inert_chars rfl
  all_goals exact Dialect.inert_chars rfl

theorem aggregate_binds {q : Query} (plain : ∀ a ∈ q.aggregate, ∀ name ∈ a.columns, PlainText name) :
    (t.aggregate q).Binds t.dialect [] := by
  unfold aggregate
  split
  · exact Sql.Binds.empty t.dialect
  · rename_i a found
    have names := columns_inert plainPrefix (plain a found)
    have function : t.dialect.Inert a.function.sql := by cases a.function <;> exact Dialect.inert_chars rfl
    have columns : t.dialect.Inert (t.aggregateColumns q a.columns) := by
      unfold aggregateColumns
      have chosen : t.dialect.Inert (if a.columns.isEmpty then "*" else t.columns a.columns) := by
        split
        · exact Dialect.inert_chars rfl
        · exact names
      simp only
      generalize (if a.columns.isEmpty then "*" else t.columns a.columns) = shown at chosen ⊢
      split
      · exact (Dialect.inert_chars rfl).append chosen
      · exact chosen
    have label := quoteName_inert (s := "aggregate") (PlainText.of_chars rfl) t.dialect
    refine ⟨?_, by simp⟩
    simp only [Sql.sound_append, Sql.sound_ofText]
    exact ⟨⟨⟨⟨⟨Dialect.inert_chars rfl, function⟩, Dialect.inert_chars rfl⟩, columns⟩, Dialect.inert_chars rfl⟩,
      label⟩

theorem selectList_binds {q : Query} {p : Parts} (distinct : q.distinct.Sound)
    (columns : Compiles (BindsAll t.dialect (selectionBindings t.numbersRows q.columns)) p.columns)
    (aggregate : q.aggregate.isSome → selectionBindings t.numbersRows q.columns = []) :
    Compiles (Sql.Binds t.dialect (selectionBindings t.numbersRows q.columns)) (t.selectList q p) := by
  unfold selectList
  split
  · rename_i aggregated
    rw [aggregate aggregated]
    exact .ok (Sql.Binds.empty t.dialect)
  · apply columns.map
    intro parts binds
    have keyword := selectKeyword_inert plainPrefix distinct
    have list : (if parts.isEmpty then Sql.ofText "*" else Sql.join ", " parts).Binds t.dialect
        (selectionBindings t.numbersRows q.columns) := by
      split
      · rename_i nothing
        rw [List.isEmpty_iff.mp nothing] at binds
        rw [← binds.values_eq]
        exact Sql.Binds.ofText (Dialect.inert_chars rfl)
      · exact binds.join (Dialect.inert_chars rfl)
    exact ((Sql.Binds.ofText keyword).beforePlain rfl).append list

omit plainPrefix in
theorem indexHint_inert {hint : IndexHint} (plain : PlainText hint.indexes) :
    t.dialect.Inert (t.indexHint hint) := by
  have indexes : t.dialect.Inert (t.hintedIndexes hint) := by
    apply inert_intercalate (Dialect.inert_chars rfl)
    intro part member
    obtain ⟨name, inParts, rfl⟩ := List.mem_map.mp member
    exact quoteName_inert (plain.parts inParts).strip t.dialect
  have word : t.dialect.Inert (HintKind.mysqlWord hint.kind) := by
    cases hint.kind <;> exact Dialect.inert_chars rfl
  unfold indexHint
  split
  · exact ((word.append (Dialect.inert_chars rfl)).append indexes).append (Dialect.inert_chars rfl)
  · exact (Dialect.inert_chars rfl).append indexes
  · exact (Dialect.inert_chars rfl |>.append indexes).append (Dialect.inert_chars rfl)
  · exact Dialect.inert_chars rfl

omit plainPrefix in
theorem lockClause_inert {lock : Lock} (sound : lock.Sound t.dialect) : t.dialect.Inert (t.lockClause lock) := by
  cases lock with
  | raw sql =>
    unfold lockClause
    simp only
    split
    · exact sound
    · exact sound
    all_goals exact Dialect.inert_chars rfl
  | update =>
    unfold lockClause
    simp only
    split <;> exact Dialect.inert_chars rfl
  | shared =>
    unfold lockClause
    simp only
    split <;> exact Dialect.inert_chars rfl

omit plainPrefix in
theorem tableLock_inert {d : Dialect} {lock : Lock} (sound : lock.Sound d) : d.Inert (tableLock lock) := by
  cases lock with
  | raw sql => exact sound
  | update => exact Dialect.inert_chars rfl
  | shared => exact Dialect.inert_chars rfl

theorem sourceTable_binds {q : Query} {name : String} (plain : PlainText name)
    (lock : ∀ lock ∈ q.lock, lock.Sound t.dialect) : (t.sourceTable q name).Binds t.dialect [] := by
  have table : (Sql.ofText "FROM " ++ Sql.ofText (t.table name)).Binds t.dialect [] :=
    (Sql.Binds.ofText (table_inert plainPrefix plain)).afterPlain rfl
  unfold sourceTable
  split
  · rename_i found
    have hint : (Sql.ofText (tableLock _)).Binds t.dialect [] :=
      Sql.Binds.ofText (tableLock_inert (lock _ found))
    exact (BindsAll.cons table (BindsAll.cons hint (BindsAll.nil t.dialect))).concat
  · exact table

theorem sourceClause_binds {q : Query} {p : Parts} (sound : ∀ source ∈ q.source, source.Sound t)
    (lock : ∀ lock ∈ q.lock, lock.Sound t.dialect)
    (source : Compiles (Sql.Binds t.dialect (sourceBindings t.numbersRows q.source)) p.source) :
    Compiles (Sql.Binds t.dialect (sourceBindings t.numbersRows q.source)) (t.sourceClause q p) := by
  unfold sourceClause
  split
  · rename_i nothing
    rw [nothing]
    exact .ok (Sql.Binds.empty t.dialect)
  · rename_i name found
    rw [found]
    cases sound _ found with
    | table plain => exact .ok (sourceTable_binds plainPrefix plain lock)
  · rename_i sql values found
    rw [found]
    cases sound _ found with
    | raw holds => exact .ok ((Sql.Binds.raw holds).afterPlain rfl)
  · exact source.map fun rows binds => binds.afterPlain rfl

omit plainPrefix in
theorem clauseAfter_binds {d : Dialect} {clause : Clause} {sql : Except Error Sql} {numbersRows : Bool}
    (keyword : String) (word : d.Inert keyword)
    (binds : Compiles (Sql.Binds d (clauseBindings numbersRows clause)) sql) :
    Compiles (Sql.Binds d (clauseBindings numbersRows clause)) (clauseAfter keyword clause sql) := by
  unfold clauseAfter
  split
  · rename_i nothing
    rw [List.isEmpty_iff.mp nothing]
    exact .ok (Sql.Binds.empty d)
  · exact binds.map fun rows holds =>
      ((Sql.Binds.ofText word).beforePlain rfl).append holds

theorem components_binds {q : Query} {p : Parts} (sound : q.Sound t) (parts : p.Binds t q)
    (aggregate : q.aggregate.isSome → selectionBindings t.numbersRows q.columns = []) :
    Compiles (Components.Binds t q) (t.components q p) := by
  obtain ⟨aggregateNames, _, distinct, source, hint, _, _, groups, _, orders, _, _, _, lock⟩ := sound
  unfold components
  apply (selectList_binds plainPrefix distinct parts.columns aggregate).bind
  intro columns columnsBind
  apply (sourceClause_binds plainPrefix source lock parts.source).bind
  intro source sourceBinds
  apply parts.joins.bind
  intro joins joinsBind
  apply (clauseAfter_binds "WHERE" (Dialect.inert_chars rfl) parts.wheres).bind
  intro wheres wheresBind
  apply (clauseAfter_binds "HAVING" (Dialect.inert_chars rfl) parts.havings).map
  intro havings havingsBind
  have hintBinds : Sql.Binds t.dialect [] (Sql.ofText ((q.indexHint.map t.indexHint).getD "")) := by
    apply Sql.Binds.ofText
    cases found : q.indexHint with
    | none => exact Dialect.inert_chars rfl
    | some hint' => exact indexHint_inert (hint hint' found)
  have lockBinds : Sql.Binds t.dialect [] (Sql.ofText ((q.lock.map t.lockClause).getD "")) := by
    apply Sql.Binds.ofText
    cases found : q.lock with
    | none => exact Dialect.inert_chars rfl
    | some lock' => exact lockClause_inert (lock lock' found)
  exact {
    aggregate := aggregate_binds plainPrefix aggregateNames
    columns := columnsBind
    source := sourceBinds
    indexHint := hintBinds
    joins := joinsBind.join (Dialect.inert_chars rfl)
    wheres := wheresBind
    groups := groupBy_binds plainPrefix groups
    havings := havingsBind
    orders := queryOrder_binds plainPrefix orders
    paging := BindsAll.texts (t.queryPaging_inert q)
    lock := lockBinds }

end

end Target

end SqlCompiler
