import SqlCompiler.Proofs.Versions.Ungated
import SqlCompiler.Select.Compile

namespace SqlCompiler

/-- The second result is reached if the first is, and is the same if all else is. -/
structure Lasts {α : Type} (same : Prop) (first second : Except Error α) : Prop where
  ok : first.isOk → second.isOk
  eq : same → second = first

namespace Lasts

variable {α β : Type} {same : Prop} {first second : Except Error α}

theorem of_eq (equal : second = first) : Lasts same first second := ⟨fun ok => equal ▸ ok, fun _ => equal⟩

theorem pure {a b : α} (equal : same → b = a) :
    Lasts same (Pure.pure a : Except Error α) (Pure.pure b) := ⟨fun _ => rfl, fun all => congrArg _ (equal all)⟩

theorem bind {next next' : α → Except Error β} (lasts : Lasts same first second)
    (later : ∀ a b, (same → b = a) → Lasts same (next a) (next' b)) :
    Lasts same (first >>= next) (second >>= next') := by
  obtain ⟨ok, eq⟩ := lasts
  cases first with
  | error e =>
    refine ⟨nofun, fun all => ?_⟩
    rw [eq all]
    rfl
  | ok a =>
    cases second with
    | error e => cases ok rfl
    | ok b => exact later a b fun all => Except.ok.inj (eq all)

theorem map {f g : α → β} (lasts : Lasts same first second)
    (later : ∀ a b, (same → b = a) → same → g b = f a) :
    Lasts same (first >>= fun a => Pure.pure (f a)) (second >>= fun b => Pure.pure (g b)) :=
  lasts.bind fun a b equal => .pure (later a b equal)

theorem map_same {f : α → β} (lasts : Lasts same first second) :
    Lasts same (first >>= fun a => Pure.pure (f a)) (second >>= fun b => Pure.pure (f b)) :=
  lasts.map fun _ _ equal all => congrArg f (equal all)

end Lasts

namespace Target

variable {t : Target} {v : Option Version}

section

variable (opens : t.OpensUp v)
include opens

theorem versioned_unsupported {α : Type} (feature : Feature) :
    ((t.versioned v).unsupported feature : Except Error α) = t.unsupported feature := by
  rw [unsupported, unsupported, name_eq, name_eq, opens.mariadb, versioned_dialect]

theorem versioned_check (op : Operator) : (t.versioned v).check op = t.check op := by
  simp only [check, versioned_dialect, versioned_unsupported opens]

theorem versioned_jsonContains (column : String) (document : Json) :
    (t.versioned v).jsonContains column document = t.jsonContains column document := by
  simp only [jsonContains, versioned_jsonDocument, versioned_jsonArguments, versioned_dotted, versioned_dialect,
    versioned_unsupported opens]

theorem versioned_fullText (columns : List String) (terms : String) (options : FullTextOptions) :
    (t.versioned v).fullText columns terms options = t.fullText columns terms options := by
  simp only [fullText, mysqlSearchMode, versioned_columns, versioned_column, versioned_dialect,
    versioned_unsupported opens]

theorem lateralJoin_lasts (kind : JoinKind) {target target' : Sql}
    (equal : t.gates = (t.versioned v).gates → target' = target) :
    Lasts (t.gates = (t.versioned v).gates) (t.lateralJoin kind target)
      ((t.versioned v).lateralJoin kind target') where
  ok reached := by
    have present : t.hasLateralJoins := by
      cases open_ : t.hasLateralJoins with
      | true => rfl
      | false =>
        simp only [lateralJoin, open_] at reached
        cases reached
    have present' : (t.versioned v).hasLateralJoins := by
      rw [← gates_lateralJoins] at present ⊢
      exact opens.lateralJoins present
    revert reached
    simp only [lateralJoin, present, present', versioned_dialect, not_true_eq_false, if_false]
    cases t.dialect <;> cases kind <;> exact id
  eq all := by
    have present : t.hasLateralJoins = (t.versioned v).hasLateralJoins := by
      rw [← gates_lateralJoins, ← gates_lateralJoins, all]
    simp only [lateralJoin, equal all, present, versioned_dialect, versioned_unsupported opens]

end

end Target

structure Parts.Last (same : Prop) (p p' : Parts) : Prop where
  columns : Lasts same p.columns p'.columns
  source : Lasts same p.source p'.source
  joins : Lasts same p.joins p'.joins
  wheres : Lasts same p.wheres p'.wheres
  havings : Lasts same p.havings p'.havings
  unions : Lasts same p.unions p'.unions

theorem clauseAfter_lasts {same : Prop} {keyword : String} {clause : Clause} {sql sql' : Except Error Sql}
    (lasts : Lasts same sql sql') :
    Lasts same (Target.clauseAfter keyword clause sql) (Target.clauseAfter keyword clause sql') := by
  unfold Target.clauseAfter
  split
  · exact .of_eq rfl
  · exact lasts.map_same

theorem plainJoin_lasts {same : Prop} {kind : JoinKind} {target target' : Sql} {on : Clause}
    {conditions conditions' : Except Error Sql} (equal : same → target' = target)
    (lasts : Lasts same conditions conditions') :
    Lasts same (Target.plainJoin kind target on conditions) (Target.plainJoin kind target' on conditions') := by
  unfold Target.plainJoin
  split
  · exact .pure fun all => by rw [equal all]
  · exact lasts.map fun a b same all => by rw [equal all, same all]

namespace Target

variable {t : Target} {v : Option Version}

section

variable {same : Prop} (q : Query) {p p' : Parts} (parts : p.Last same p')
include parts

theorem selectList_lasts : Lasts same (t.selectList q p) ((t.versioned v).selectList q p') := by
  unfold selectList
  rw [versioned_selectKeyword]
  split
  · exact .of_eq rfl
  · exact parts.columns.map_same

theorem sourceClause_lasts : Lasts same (t.sourceClause q p) ((t.versioned v).sourceClause q p') := by
  unfold sourceClause
  rw [versioned_sourceTable]
  split
  · exact .of_eq rfl
  · exact .of_eq rfl
  · exact .of_eq rfl
  · exact parts.source.map_same

theorem components_lasts : Lasts same (t.components q p) ((t.versioned v).components q p') := by
  unfold components
  apply (selectList_lasts q parts).bind
  intro columns columns' sameColumns
  apply (sourceClause_lasts q parts).bind
  intro source source' sameSource
  apply parts.joins.bind
  intro joins joins' sameJoins
  apply (clauseAfter_lasts parts.wheres).bind
  intro wheres wheres' sameWheres
  apply (clauseAfter_lasts parts.havings).map
  intro havings havings' sameHavings all
  simp only [sameColumns all, sameSource all, sameJoins all, sameWheres all, sameHavings all, versioned_aggregate,
    versioned_indexHint, versioned_groupBy, versioned_queryOrder, versioned_queryPaging, versioned_lockClause]

end

theorem isOk_map {α β : Type} (result : Except Error α) (f : α → β) :
    (result >>= fun a => Pure.pure (f a)).isOk = result.isOk := by cases result <;> rfl

theorem isOk_selectList (t : Target) (q : Query) (p : Parts) :
    (t.selectList q p).isOk = (q.aggregate.isSome || p.columns.isOk) := by
  unfold selectList
  split
  · rename_i aggregated
    rw [aggregated]
    rfl
  · rename_i plain
    rw [isOk_map, Bool.eq_false_iff.mpr plain, Bool.false_or]

theorem isOk_components (t : Target) (q : Query) (p : Parts) :
    (t.components q p).isOk = ((q.aggregate.isSome || p.columns.isOk) && (t.sourceClause q p).isOk && p.joins.isOk &&
      (clauseAfter "WHERE" q.wheres p.wheres).isOk && (clauseAfter "HAVING" q.havings p.havings).isOk) := by
  rw [← isOk_selectList t]
  unfold components
  cases t.selectList q p <;> cases t.sourceClause q p <;> cases p.joins <;>
    cases clauseAfter "WHERE" q.wheres p.wheres <;> cases clauseAfter "HAVING" q.havings p.havings <;> rfl

theorem isOk_limitedGroups (t : Target) (q : Query) (g : GroupLimit) (p : Parts) :
    (t.limitedGroups q g p).isOk = (t.gates.limitsGroups && (t.components q p).isOk) := by
  have inner (orders : List Order) :
      (t.components { q with groupLimit := none, offset := none, orders } p).isOk = (t.components q p).isOk := by
    simp only [isOk_components]
    rfl
  unfold limitedGroups
  split
  case isTrue old =>
    rw [Bool.eq_false_iff.mpr (mt (gates_limitsGroups t).mp (not_not_intro old))]
    rfl
  case isFalse recent =>
    rw [(gates_limitsGroups t).mpr recent, Bool.true_and]
    split
    · exact (isOk_map _ _).trans (inner _)
    · exact (isOk_map _ _).trans (inner _)

theorem limitedGroups_lasts (opens : t.OpensUp v) (q : Query) (g : GroupLimit) {p p' : Parts}
    (parts : p.Last (t.gates = (t.versioned v).gates) p') :
    Lasts (t.gates = (t.versioned v).gates) (t.limitedGroups q g p) ((t.versioned v).limitedGroups q g p') where
  ok reached := by
    simp only [isOk_limitedGroups, Bool.and_eq_true] at reached ⊢
    exact ⟨opens.limitsGroups reached.1, (components_lasts q parts).ok reached.2⟩
  eq all := by
    have numbers : t.numbersRows = (t.versioned v).numbersRows := by
      rw [← gates_numbersRows, ← gates_numbersRows, all]
    have numbered : (t.versioned v).numberedGroups q g p' = t.numberedGroups q g p := by
      simp only [numberedGroups, (components_lasts _ parts).eq all, versioned_rowNumber, versioned_rowRange,
        versioned_dialect]
    have counted : (t.versioned v).countedGroups q g p' = t.countedGroups q g p := by
      simp only [countedGroups, (components_lasts _ parts).eq all, versioned_rowRange, versioned_dialect]
    have old :
        t.dialect = .sqlite ∧ t.olderThan 3 25 0 ↔ t.dialect = .sqlite ∧ (t.versioned v).olderThan 3 25 0 := by
      rw [← Decidable.not_iff_not, ← gates_limitsGroups, all]
      exact gates_limitsGroups _
    simp only [limitedGroups, numbers, numbered, counted, versioned_unsupported opens, versioned_dialect, old]

theorem rows_lasts (opens : t.OpensUp v) (q : Query) {p p' : Parts}
    (parts : p.Last (t.gates = (t.versioned v).gates) p') :
    Lasts (t.gates = (t.versioned v).gates) (t.rows q p) ((t.versioned v).rows q p') := by
  unfold rows
  split
  · exact limitedGroups_lasts opens q _ parts
  · apply (components_lasts q parts).bind
    intro c c' equal
    split
    · exact .pure fun all => by rw [equal all]
    · apply parts.unions.map
      intro members members' same all
      rw [equal all, same all, versioned_unionMember, versioned_unionTail]

theorem assemble_lasts (opens : t.OpensUp v) (q : Query) {p p' : Parts}
    (parts : p.Last (t.gates = (t.versioned v).gates) p') :
    Lasts (t.gates = (t.versioned v).gates) (t.assemble q p) ((t.versioned v).assemble q p') := by
  unfold assemble
  split
  · exact (rows_lasts opens { q with aggregate := none } parts).map fun rows rows' equal all => by
      rw [equal all, versioned_aggregate, versioned_table]
  · exact rows_lasts opens q parts

end Target

variable {t : Target} {v : Option Version}

theorem Lasts.checked (opens : t.OpensUp v) {same : Prop} {op : Operator} {next next' : Except Error Sql}
    (lasts : Lasts same next next') :
    Lasts same (t.check op >>= fun _ => next) ((t.versioned v).check op >>= fun _ => next') :=
  (Lasts.of_eq (Target.versioned_check opens op)).bind fun _ _ _ => lasts

mutual

theorem Query.sql_lasts (opens : t.OpensUp v) : ∀ q : Query,
    Lasts (t.gates = (t.versioned v).gates) (q.sql t) (q.sql (t.versioned v))
  | q@⟨_, columns, _, source, _, joins, wheres, _, havings, _, _, _, _, unions, _, _, _, _⟩ => by
    rw [Query.sql_eq_assemble, Query.sql_eq_assemble]
    apply Target.assemble_lasts opens
    exact {
      columns := selectionSqls_lasts opens columns
      source := sourceSql_lasts opens source
      joins := joinSqls_lasts opens joins
      wheres := (predicateSqls_lasts opens wheres).map_same
      havings := (predicateSqls_lasts opens havings).map_same
      unions := unionSqls_lasts opens unions }

theorem selectionSqls_lasts (opens : t.OpensUp v) : ∀ items : List Selection,
    Lasts (t.gates = (t.versioned v).gates) (selectionSqls t items) (selectionSqls (t.versioned v) items)
  | [] => .of_eq rfl
  | item :: rest => (Selection.sql_lasts opens item).bind fun _ _ first => (selectionSqls_lasts opens rest).map
      fun _ _ later all => by rw [first all, later all]

theorem Selection.sql_lasts (opens : t.OpensUp v) : ∀ item : Selection,
    Lasts (t.gates = (t.versioned v).gates) (item.sql t) (item.sql (t.versioned v))
  | .column _ => .pure fun _ => by simp
  | .raw _ _ => .of_eq rfl
  | .derived q _ => (Query.sql_lasts opens q).map_same

theorem sourceSql_lasts (opens : t.OpensUp v) : ∀ source : Option Source,
    Lasts (t.gates = (t.versioned v).gates) (sourceSql t source) (sourceSql (t.versioned v) source)
  | none => .of_eq rfl
  | some source => Source.sql_lasts opens source

theorem Source.sql_lasts (opens : t.OpensUp v) : ∀ source : Source,
    Lasts (t.gates = (t.versioned v).gates) (source.sql t) (source.sql (t.versioned v))
  | .table _ => .pure fun _ => by simp
  | .raw _ _ => .of_eq rfl
  | .derived q _ => (Query.sql_lasts opens q).map fun _ _ equal all => by
    rw [equal all, Target.versioned_derivedTable]

theorem joinSqls_lasts (opens : t.OpensUp v) : ∀ joins : List Join,
    Lasts (t.gates = (t.versioned v).gates) (joinSqls t joins) (joinSqls (t.versioned v) joins)
  | [] => .of_eq rfl
  | join :: rest => (Join.sql_lasts opens join).bind fun _ _ first => (joinSqls_lasts opens rest).map
      fun _ _ later all => by rw [first all, later all]

theorem Join.sql_lasts (opens : t.OpensUp v) : ∀ join : Join,
    Lasts (t.gates = (t.versioned v).gates) (join.sql t) (join.sql (t.versioned v))
  | ⟨kind, target, on⟩ => by
    apply (JoinTarget.sql_lasts opens target).bind
    intro rows rows' equal
    split
    · exact Target.lateralJoin_lasts opens kind equal
    · exact plainJoin_lasts equal (predicateSqls_lasts opens on).map_same

theorem JoinTarget.sql_lasts (opens : t.OpensUp v) : ∀ target : JoinTarget,
    Lasts (t.gates = (t.versioned v).gates) (target.sql t) (target.sql (t.versioned v))
  | .table _ => .pure fun _ => by simp
  | .derived q _ => (Query.sql_lasts opens q).map fun _ _ equal all => by
    rw [equal all, Target.versioned_derivedTable]
  | .lateral q _ => (Query.sql_lasts opens q).map fun _ _ equal all => by
    rw [equal all, Target.versioned_derivedTable]

theorem predicateSqls_lasts (opens : t.OpensUp v) : ∀ clause : List Predicate,
    Lasts (t.gates = (t.versioned v).gates) (predicateSqls t clause) (predicateSqls (t.versioned v) clause)
  | [] => .of_eq rfl
  | test :: rest => (Predicate.sql_lasts opens test).bind fun _ _ first => (predicateSqls_lasts opens rest).map
      fun _ _ later all => by rw [first all, later all]

theorem Predicate.sql_lasts (opens : t.OpensUp v) : ∀ test : Predicate,
    Lasts (t.gates = (t.versioned v).gates) (test.sql t) (test.sql (t.versioned v))
  | ⟨condition, _, _⟩ => (Condition.sql_lasts opens condition).map_same

theorem Condition.sql_lasts (opens : t.OpensUp v) : ∀ condition : Condition,
    Lasts (t.gates = (t.versioned v).gates) (condition.sql t) (condition.sql (t.versioned v))
  | .compare _ _ _ => Lasts.checked opens (.pure fun _ => by simp)
  | .compareColumns _ _ _ => Lasts.checked opens (.pure fun _ => by simp)
  | .raw _ _ => .of_eq rfl
  | .nested clause => (predicateSqls_lasts opens clause).map_same
  | .hasRows query => (Subquery.sql_lasts opens query).map_same
  | .isNull _ _ => .pure fun _ => by simp
  | .datePart _ _ _ _ => Lasts.checked opens (.pure fun _ => by simp)
  | .inList _ _ _ => .pure fun _ => by simp
  | .inQuery _ query _ => (Subquery.sql_lasts opens query).map fun _ _ equal all => by simp [equal all]
  | .between _ _ _ _ => .pure fun _ => by simp
  | .betweenColumns _ _ _ _ => .pure fun _ => by simp
  | .compareQuery _ _ query => Lasts.checked opens ((Subquery.sql_lasts opens query).map fun _ _ equal all => by
    simp [equal all])
  | .compareRow _ _ _ => Lasts.checked opens (.pure fun _ => by simp)
  | .jsonContains column document => .of_eq (Target.versioned_jsonContains opens column document)
  | .jsonHasKey _ => (Lasts.of_eq (by simp)).map_same
  | .jsonLength _ _ _ => Lasts.checked opens (.pure fun _ => by simp)
  | .fullText columns terms options => .of_eq (Target.versioned_fullText opens columns terms options)

theorem Subquery.sql_lasts (opens : t.OpensUp v) : ∀ query : Subquery,
    Lasts (t.gates = (t.versioned v).gates) (query.sql t) (query.sql (t.versioned v))
  | .query q => Query.sql_lasts opens q
  | .raw _ _ => .of_eq rfl

theorem unionSqls_lasts (opens : t.OpensUp v) : ∀ unions : List Union,
    Lasts (t.gates = (t.versioned v).gates) (unionSqls t unions) (unionSqls (t.versioned v) unions)
  | [] => .of_eq rfl
  | ⟨query, _⟩ :: rest => (Query.sql_lasts opens query).bind fun _ _ first => (unionSqls_lasts opens rest).map
      fun _ _ later all => by rw [first all, later all, Target.versioned_unionMember]

end

end SqlCompiler
