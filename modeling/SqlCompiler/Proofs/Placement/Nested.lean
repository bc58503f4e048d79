import SqlCompiler.Proofs.Placement.Rows
import SqlCompiler.Select.Compile

namespace SqlCompiler

theorem joinConditions_binds {d : Dialect} {values : List Value} {tests : List (Conjunction × Sql)}
    (all : BindsAll d values (tests.map Prod.snd)) : (joinConditions tests).Binds d values := by
  obtain ⟨sound, rfl⟩ := all
  fun_induction joinConditions tests with
  | case1 => exact Sql.Binds.empty d
  | case2 word sql => exact ⟨sound sql (by simp), by simp⟩
  | case3 first sql word next rest ih =>
    have word_inert : d.Inert word.sql := by cases word <;> exact Dialect.inert_chars rfl
    have head : sql.Binds d sql.values := ⟨sound sql (by simp), rfl⟩
    have tail := ih fun part member => sound part (List.mem_cons_of_mem _ member)
    exact (((head.beforePlain rfl).before word_inert).beforePlain rfl).append tail

namespace Target

section

variable {t : Target} (plainPrefix : PlainText t.tablePrefix)
include plainPrefix

theorem derivedTable_binds {rows : Sql} {label : String} {values : List Value} (plain : PlainText label)
    (binds : rows.Binds t.dialect values) : (t.derivedTable rows label).Binds t.dialect values :=
  (binds.within rfl rfl).before (table_inert plainPrefix plain)

theorem namedTest_binds {column word : String} (plain : PlainText column) (inert : t.dialect.Inert word) :
    (Sql.ofText (t.column column) ++ Sql.ofText " " ++ Sql.ofText word).Binds t.dialect [] :=
  ((Sql.Binds.ofText (column_inert plainPrefix plain)).beforePlain rfl).before inert

omit plainPrefix in
theorem JoinKind.sql_inert (d : Dialect) (kind : JoinKind) : d.Inert kind.sql := by
  cases kind <;> exact Dialect.inert_chars rfl

omit plainPrefix in
theorem plainJoin_binds {kind : JoinKind} {target : Sql} {on : Clause} {conditions : Except Error Sql}
    {values : List Value} (binds : target.Binds t.dialect values)
    (tests : Compiles (Sql.Binds t.dialect (clauseBindings t.numbersRows on)) conditions) :
    Compiles (Sql.Binds t.dialect (values ++ clauseBindings t.numbersRows on))
      (plainJoin kind target on conditions) := by
  have joined : (Sql.ofText kind.sql ++ Sql.ofText " JOIN " ++ target).Binds t.dialect values :=
    ((Sql.Binds.ofText (JoinKind.sql_inert t.dialect kind)).beforePlain rfl).append binds
  unfold plainJoin
  split
  · rename_i nothing
    rw [List.isEmpty_iff.mp nothing, clauseBindings, List.append_nil]
    exact .ok joined
  · exact tests.map fun rows holds => (joined.beforePlain rfl).append holds

omit plainPrefix in
theorem lateralJoin_binds {kind : JoinKind} {target : Sql} {values : List Value}
    (binds : target.Binds t.dialect values) :
    Compiles (Sql.Binds t.dialect values) (t.lateralJoin kind target) := by
  have word := JoinKind.sql_inert t.dialect kind
  unfold lateralJoin
  split
  · exact Compiles.unsupported t _
  · split
    · exact .ok (binds.afterPlain rfl)
    · exact .ok (binds.afterPlain rfl)
    · exact .ok (binds.afterPlain rfl)
    · exact Compiles.unsupported t _
    · exact .ok ((((Sql.Binds.ofText word).beforePlain rfl).append binds).beforePlain rfl)

end

end Target

mutual

theorem Query.sql_binds {t : Target} (plainPrefix : PlainText t.tablePrefix) :
    ∀ q : Query, q.Sound t → q.Places t.numbersRows →
      Compiles (Sql.Binds t.dialect (q.bindings t.numbersRows)) (q.sql t)
  | ⟨_, columns, _, source, _, joins, wheres, _, havings, _, _, _, _, unions, _, _, _, _⟩, sound, places => by
    rw [Query.sql_eq_assemble]
    refine Target.assemble_binds plainPrefix sound places ?_
    obtain ⟨_, columnsSound, _, sourceSound, _, joinsSound, wheresSound, _, havingsSound, _, _, unionsSound, _, _⟩ :=
      sound
    exact {
      columns := selectionSqls_bind plainPrefix columns columnsSound
      source := sourceSql_binds plainPrefix source sourceSound
      joins := joinSqls_bind plainPrefix joins joinsSound
      wheres := (predicateSqls_bind plainPrefix wheres wheresSound).map fun _ all => joinConditions_binds all
      havings := (predicateSqls_bind plainPrefix havings havingsSound).map fun _ all => joinConditions_binds all
      unions := unionSqls_bind plainPrefix unions unionsSound }

theorem selectionSqls_bind {t : Target} (plainPrefix : PlainText t.tablePrefix) :
    ∀ items : List Selection, (∀ item ∈ items, item.Sound t) →
      Compiles (BindsAll t.dialect (selectionBindings t.numbersRows items)) (selectionSqls t items)
  | [], _ => .ok (BindsAll.nil t.dialect)
  | item :: rest, sound => by
    have ⟨head, tail⟩ := List.forall_mem_cons.mp sound
    apply (Selection.sql_binds plainPrefix item head).bind
    intro first binds
    exact (selectionSqls_bind plainPrefix rest tail).map fun _ all => BindsAll.cons binds all

theorem Selection.sql_binds {t : Target} (plainPrefix : PlainText t.tablePrefix) :
    ∀ item : Selection, item.Sound t →
      Compiles (Sql.Binds t.dialect (item.bindings t.numbersRows)) (item.sql t)
  | .column _, .column plain => .ok (Sql.Binds.ofText (Target.column_inert plainPrefix plain))
  | .raw _ _, .raw holds => .ok (Sql.Binds.raw holds)
  | .derived q _, .derived sound places plain => by
    have label := quoteName_inert plain t.dialect
    apply (Query.sql_binds plainPrefix q sound places).map
    intro rows binds
    exact (binds.within rfl rfl).before label

theorem sourceSql_binds {t : Target} (plainPrefix : PlainText t.tablePrefix) :
    ∀ source : Option Source, (∀ s ∈ source, s.Sound t) →
      Compiles (Sql.Binds t.dialect (sourceBindings t.numbersRows source)) (sourceSql t source)
  | none, _ => .ok (Sql.Binds.empty t.dialect)
  | some source, sound => Source.sql_binds plainPrefix source (sound source rfl)

theorem Source.sql_binds {t : Target} (plainPrefix : PlainText t.tablePrefix) :
    ∀ source : Source, source.Sound t →
      Compiles (Sql.Binds t.dialect (source.bindings t.numbersRows)) (source.sql t)
  | .table _, .table plain => .ok (Sql.Binds.ofText (Target.table_inert plainPrefix plain))
  | .raw _ _, .raw holds => .ok (Sql.Binds.raw holds)
  | .derived q _, .derived sound places plain =>
    (Query.sql_binds plainPrefix q sound places).map fun _ binds => Target.derivedTable_binds plainPrefix plain binds

theorem joinSqls_bind {t : Target} (plainPrefix : PlainText t.tablePrefix) :
    ∀ items : List Join, (∀ item ∈ items, item.Sound t) →
      Compiles (BindsAll t.dialect (joinBindings t.numbersRows items)) (joinSqls t items)
  | [], _ => .ok (BindsAll.nil t.dialect)
  | ⟨kind, target, on⟩ :: rest, sound => by
    have ⟨head, tail⟩ := List.forall_mem_cons.mp sound
    apply (Join.sql_binds plainPrefix ⟨kind, target, on⟩ head).bind
    intro first binds
    exact (joinSqls_bind plainPrefix rest tail).map fun _ all => BindsAll.cons binds all

theorem Join.sql_binds {t : Target} (plainPrefix : PlainText t.tablePrefix) :
    ∀ join : Join, join.Sound t →
      Compiles (Sql.Binds t.dialect (join.target.bindings t.numbersRows ++ clauseBindings t.numbersRows join.on))
        (join.sql t)
  | ⟨_, target, on⟩, .intro targetSound onSound lateral => by
    apply (JoinTarget.sql_binds plainPrefix target targetSound).bind
    intro rows binds
    split
    · rename_i isLateral
      have unconditional : on = [] := lateral isLateral
      rw [unconditional, clauseBindings, List.append_nil]
      exact Target.lateralJoin_binds binds
    · have tests := predicateSqls_bind plainPrefix on onSound
      exact Target.plainJoin_binds binds (tests.map fun _ all => joinConditions_binds all)

theorem JoinTarget.sql_binds {t : Target} (plainPrefix : PlainText t.tablePrefix) :
    ∀ target : JoinTarget, target.Sound t →
      Compiles (Sql.Binds t.dialect (target.bindings t.numbersRows)) (target.sql t)
  | .table _, .table plain => .ok (Sql.Binds.ofText (Target.table_inert plainPrefix plain))
  | .derived q _, .derived sound places plain =>
    (Query.sql_binds plainPrefix q sound places).map fun _ binds => Target.derivedTable_binds plainPrefix plain binds
  | .lateral q _, .lateral sound places plain =>
    (Query.sql_binds plainPrefix q sound places).map fun _ binds => Target.derivedTable_binds plainPrefix plain binds

theorem predicateSqls_bind {t : Target} (plainPrefix : PlainText t.tablePrefix) :
    ∀ clause : List Predicate, (∀ p ∈ clause, p.Sound t) →
      Compiles (fun tests => BindsAll t.dialect (clauseBindings t.numbersRows clause) (tests.map Prod.snd))
        (predicateSqls t clause)
  | [], _ => .ok (BindsAll.nil t.dialect)
  | ⟨condition, conjunction, negated⟩ :: rest, sound => by
    have ⟨head, tail⟩ := List.forall_mem_cons.mp sound
    apply (Predicate.sql_binds plainPrefix ⟨condition, conjunction, negated⟩ head).bind
    intro first binds
    exact (predicateSqls_bind plainPrefix rest tail).map fun _ all => BindsAll.cons binds all

theorem Predicate.sql_binds {t : Target} (plainPrefix : PlainText t.tablePrefix) :
    ∀ p : Predicate, p.Sound t →
      Compiles (fun test => test.2.Binds t.dialect (p.condition.bindings t.numbersRows)) (p.sql t)
  | ⟨condition, _, negated⟩, .intro sound =>
    (Condition.sql_binds plainPrefix condition sound).map fun _ binds => binds.after (notWord_inert t.dialect negated)

theorem Condition.sql_binds {t : Target} (plainPrefix : PlainText t.tablePrefix) :
    ∀ condition : Condition, condition.Sound t →
      Compiles (Sql.Binds t.dialect (condition.bindings t.numbersRows)) (condition.sql t)
  | .compare _ op _, .compare plain sound =>
    (Compiles.check t op).bind fun _ _ => .pure (Target.comparison_binds plainPrefix plain sound op)
  | .compareColumns _ op _, .compareColumns plain plain' => by
    have tested := Target.namedTest_binds plainPrefix plain (op.sql_inert t.dialect)
    have name := Target.column_inert plainPrefix plain'
    exact (Compiles.check t op).bind fun _ _ => .pure ((tested.beforePlain rfl).before name)
  | .raw _ _, .raw holds => .ok (Sql.Binds.raw holds)
  | .nested clause, .nested all => by
    apply (predicateSqls_bind plainPrefix clause all).map
    intro tests binds
    exact (joinConditions_binds binds).within rfl rfl
  | .hasRows query, .hasRows sound => by
    apply (Subquery.sql_binds plainPrefix query sound).map
    intro rows binds
    exact binds.within rfl rfl
  | .isNull _ negated, .isNull plain => by
    have name := Sql.Binds.ofText (Target.column_inert plainPrefix plain)
    have word := notWord_inert t.dialect negated
    exact .ok (((name.beforePlain rfl).before word).beforePlain rfl)
  | .datePart _ part op _, .datePart plain sound =>
    (Compiles.check t op).bind fun _ _ => .pure (Target.datePartComparison_binds plainPrefix plain sound part op)
  | .inList _ _ negated, .inList plain all => .ok (Target.membership_binds plainPrefix plain all negated)
  | .inQuery _ query negated, .inQuery plain sound => by
    have tested := Target.namedTest_binds plainPrefix plain (notWord_inert t.dialect negated)
    apply (Subquery.sql_binds plainPrefix query sound).map
    intro rows binds
    exact ((tested.beforePlain rfl).append binds).beforePlain rfl
  | .between _ _ _ negated, .between plain lowSound highSound => by
    have tested := Target.namedTest_binds plainPrefix plain (notWord_inert t.dialect negated)
    have low := Operand.sql_binds lowSound
    have high := Operand.sql_binds highSound
    exact .ok ((((tested.beforePlain rfl).append low).beforePlain rfl).append high)
  | .betweenColumns _ _ _ negated, .betweenColumns plain lowPlain highPlain => by
    have tested := Target.namedTest_binds plainPrefix plain (notWord_inert t.dialect negated)
    have low := Target.column_inert plainPrefix lowPlain
    have high := Target.column_inert plainPrefix highPlain
    exact .ok ((((tested.beforePlain rfl).before low).beforePlain rfl).before high)
  | .compareQuery _ op query, .compareQuery plain sound => by
    have tested := Target.namedTest_binds plainPrefix plain (op.sql_inert t.dialect)
    apply (Compiles.check t op).bind
    intro _ _
    apply (Subquery.sql_binds plainPrefix query sound).map
    intro rows binds
    exact ((tested.beforePlain rfl).append binds).beforePlain rfl
  | .compareRow _ op _, .compareRow plain all => by
    have names := Sql.Binds.ofText (Target.columns_inert plainPrefix plain)
    have word := op.sql_inert t.dialect
    have values := parameters_binds all
    apply (Compiles.check t op).bind
    intro _ _
    exact .pure (((((names.within rfl rfl).before word).beforePlain rfl).append values).beforePlain rfl)
  | .jsonContains _ document, .jsonContains plain => Target.jsonContains_binds plainPrefix plain document
  | .jsonHasKey _, .jsonHasKey plain =>
    (Target.jsonHasKey_inert plainPrefix plain).map fun _ inert => Sql.Binds.ofText inert
  | .jsonLength _ op _, .jsonLength plain sound => by
    have length := Sql.Binds.ofText (Target.jsonLength_inert plainPrefix plain)
    have word := op.sql_inert t.dialect
    have operand := Operand.sql_binds sound
    apply (Compiles.check t op).bind
    intro _ _
    exact .pure ((((length.beforePlain rfl).before word).beforePlain rfl).append
      operand)
  | .fullText _ terms options, .fullText plain => Target.fullText_binds plainPrefix plain terms options

theorem Subquery.sql_binds {t : Target} (plainPrefix : PlainText t.tablePrefix) :
    ∀ query : Subquery, query.Sound t →
      Compiles (Sql.Binds t.dialect (query.bindings t.numbersRows)) (query.sql t)
  | .query q, .query sound places => Query.sql_binds plainPrefix q sound places
  | .raw _ _, .raw holds => .ok (Sql.Binds.raw holds)

theorem unionSqls_bind {t : Target} (plainPrefix : PlainText t.tablePrefix) :
    ∀ unions : List Union, (∀ union ∈ unions, union.Sound t) →
      Compiles (BindsAll t.dialect (unionBindings t.numbersRows unions)) (unionSqls t unions)
  | [], _ => .ok (BindsAll.nil t.dialect)
  | ⟨q, all⟩ :: rest, sound => by
    have ⟨head, tail⟩ := List.forall_mem_cons.mp sound
    have word : t.dialect.Inert (if all then "UNION ALL " else "UNION ") := by
      split <;> exact Dialect.inert_chars rfl
    obtain ⟨inner, places⟩ := head
    apply (Query.sql_binds plainPrefix q inner places).bind
    intro rows binds
    have member := (Target.unionMember_binds plainPrefix binds).after word
    exact (unionSqls_bind plainPrefix rest tail).map fun _ all => BindsAll.cons member all

end

theorem Query.parts_bind {t : Target} (plainPrefix : PlainText t.tablePrefix) {q : Query} (sound : q.Sound t) :
    (q.parts t).Binds t q := by
  obtain ⟨_, columns, _, source, _, joins, wheres, _, havings, _, _, unions, _, _⟩ := sound
  exact {
    columns := selectionSqls_bind plainPrefix q.columns columns
    source := sourceSql_binds plainPrefix q.source source
    joins := joinSqls_bind plainPrefix q.joins joins
    wheres := (predicateSqls_bind plainPrefix q.wheres wheres).map fun _ all => joinConditions_binds all
    havings := (predicateSqls_bind plainPrefix q.havings havings).map fun _ all => joinConditions_binds all
    unions := unionSqls_bind plainPrefix q.unions unions }

theorem Clause.sql_binds {t : Target} (plainPrefix : PlainText t.tablePrefix) {clause : Clause}
    (sound : ∀ p ∈ clause, p.Sound t) :
    Compiles (Sql.Binds t.dialect (clauseBindings t.numbersRows clause)) (Clause.sql t clause) :=
  (predicateSqls_bind plainPrefix clause sound).map fun _ all => joinConditions_binds all

end SqlCompiler
