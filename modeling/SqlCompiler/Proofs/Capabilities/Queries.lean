import SqlCompiler.Proofs.Capabilities.Needs
import SqlCompiler.Proofs.Retention.Nested

namespace SqlCompiler

/-- A result that is reached only if all that is required holds, and that is refused as unsupported only if something
that suffices does not hold. -/
structure Gated {α : Type} (required sufficient : Prop) (result : Except Error α) : Prop where
  sound : ∀ a, result = .ok a → required
  complete : sufficient → ∀ name feature, result ≠ .error (.unsupported name feature)

namespace Gated

variable {α β : Type} {required required' sufficient sufficient' : Prop}

theorem ok {a : α} (holds : required) : Gated required sufficient (.ok a : Except Error α) where
  sound _ _ := holds
  complete _ _ _ refused := by cases refused

theorem unsupported {t : Target} {feature : Feature} (lacks : ¬ sufficient) :
    Gated required sufficient (t.unsupported feature : Except Error α) where
  sound _ reached := by cases reached
  complete holds := absurd holds lacks

theorem invalid {fault : Fault} : Gated required sufficient (.error (.invalid fault) : Except Error α) where
  sound _ reached := by cases reached
  complete _ _ _ refused := by cases refused

theorem bind {first : Except Error α} {next : α → Except Error β} (gated : Gated required sufficient first)
    (later : ∀ a, Gated required' sufficient' (next a)) :
    Gated (required ∧ required') (sufficient ∧ sufficient') (first >>= next) where
  sound b whole := by
    obtain ⟨a, reached, result⟩ := ok_of_bind whole
    exact ⟨gated.sound a reached, (later a).sound b result⟩
  complete holds name feature refused := by
    cases first with
    | ok a => exact (later a).complete holds.2 name feature refused
    | error e => exact gated.complete holds.1 name feature (by cases refused; rfl)

theorem map {first : Except Error α} {f : α → β} (gated : Gated required sufficient first) :
    Gated required sufficient (first >>= fun a => Pure.pure (f a)) where
  sound b whole := by
    obtain ⟨a, reached, -⟩ := ok_of_map whole
    exact gated.sound a reached
  complete holds name feature refused := by
    cases first with
    | ok a => cases refused
    | error e => exact gated.complete holds name feature (by cases refused; rfl)

theorem mono {result : Except Error α} (gated : Gated required sufficient result) (requires : required → required')
    (enough : sufficient' → sufficient) : Gated required' sufficient' result where
  sound a reached := requires (gated.sound a reached)
  complete holds := gated.complete (enough holds)

end Gated

structure Parts.Gated (t : Target) (q : Query) (p : Parts) : Prop where
  columns : SqlCompiler.Gated True (t.Meets (selectionNeeds true q.columns)) p.columns
  source : SqlCompiler.Gated (t.Meets (sourceNeeds false q.source)) (t.Meets (sourceNeeds true q.source)) p.source
  joins : SqlCompiler.Gated (t.Meets (joinNeeds false q.joins)) (t.Meets (joinNeeds true q.joins)) p.joins
  wheres : SqlCompiler.Gated (t.Meets (clauseNeeds false q.wheres)) (t.Meets (clauseNeeds true q.wheres)) p.wheres
  havings : SqlCompiler.Gated (t.Meets (clauseNeeds false q.havings)) (t.Meets (clauseNeeds true q.havings)) p.havings
  unions : SqlCompiler.Gated True (t.Meets (unionNeeds true q.unions)) p.unions

namespace Target

variable {t : Target}

theorem clauseAfter_gated {keyword : String} {clause : Clause} {sql : Except Error Sql} {sufficient : Prop}
    (gated : Gated (t.Meets (clauseNeeds false clause)) sufficient sql) :
    Gated (t.Meets (clauseNeeds false clause)) sufficient (clauseAfter keyword clause sql) := by
  unfold clauseAfter
  split
  · rename_i empty
    obtain rfl := List.isEmpty_iff.mp empty
    exact .ok meets_nil
  · exact gated.map

theorem plainJoin_gated {kind : JoinKind} {target : Sql} {on : Clause} {conditions : Except Error Sql}
    {sufficient : Prop} (gated : Gated (t.Meets (clauseNeeds false on)) sufficient conditions) :
    Gated (t.Meets (clauseNeeds false on)) sufficient (plainJoin kind target on conditions) := by
  unfold plainJoin
  split
  · rename_i empty
    obtain rfl := List.isEmpty_iff.mp empty
    exact .ok meets_nil
  · exact gated.map

theorem offers_lateralJoin (kind : JoinKind) :
    t.offers (.lateralJoin kind) ↔ t.hasLateralJoins ∧ ¬ (t.dialect = .sqlServer ∧ kind = .right) := by
  cases dialect : t.dialect with
  | postgres => simp [offers, hasLateralJoins, dialect]
  | mysql => cases version : t.version <;> simp [offers, hasLateralJoins, isMariadb, olderThan, dialect, version]
  | sqlite => simp [offers, hasLateralJoins, dialect]
  | sqlServer => simp [offers, hasLateralJoins, dialect]

theorem offers_groupLimit : t.offers .groupLimit ↔ ¬ (t.dialect = .sqlite ∧ t.olderThan 3 25 0) := by
  cases version : t.version <;> simp [offers, olderThan, version, imp_iff_not_or]

theorem check_gated (op : Operator) : Gated (t.offers (.operator op)) (t.offers (.operator op)) (t.check op) := by
  unfold check
  split
  · rename_i listed
    exact .ok (by simpa [offers] using listed)
  · rename_i missing
    exact .unsupported (by simpa [offers] using missing)

theorem lateralJoin_gated (kind : JoinKind) (target : Sql) :
    Gated (t.offers (.lateralJoin kind)) (t.offers (.lateralJoin kind)) (t.lateralJoin kind target) := by
  rw [offers_lateralJoin]
  unfold lateralJoin
  split
  · rename_i missing
    exact .unsupported fun offered => missing offered.1
  · rename_i present
    have present : t.hasLateralJoins := by simpa using present
    split
    case h_4 dialect => exact .unsupported fun offered => offered.2 ⟨dialect, rfl⟩
    case h_5 dialect right => exact .ok ⟨present, fun both => right both.1 both.2⟩
    all_goals exact .ok ⟨present, by simp⟩

theorem jsonContains_gated (column : String) (document : Json) :
    Gated (t.offers .jsonContainment) (t.offers .jsonContainment) (t.jsonContains column document) := by
  cases dialect : t.dialect with
  | postgres => 
    simp only [jsonContains, dialect]
    exact .ok (by simp [offers, dialect])
  | mysql =>
    simp only [jsonContains, dialect]
    split
    · exact .ok (by simp [offers, dialect])
    · exact .ok (by simp [offers, dialect])
  | sqlite =>
    simp only [jsonContains, dialect]
    exact .unsupported (by simp [offers, dialect])
  | sqlServer =>
    simp only [jsonContains, dialect]
    exact .ok (by simp [offers, dialect])

theorem jsonHasKey_gated (column : String) : Gated True True (t.jsonHasKey column) := by
  have key (path : List String) : Gated True True (jsonKey column path) := by
    unfold jsonKey
    split
    · exact .ok trivial
    · exact .invalid
  unfold jsonHasKey
  have gated (path : List String) {next : List String × String → Except Error String}
      (later : ∀ found, Gated True True (next found)) : Gated True True (jsonKey column path >>= next) :=
    ((key path).bind later).mono (fun _ => trivial) fun _ => ⟨trivial, trivial⟩
  apply gated
  intro found
  cases t.dialect <;> exact .ok trivial

theorem mysqlSearchMode_gated (options : FullTextOptions) :
    Gated (options.mode = .natural ∨ options.mode = .boolean) (options.mode = .natural ∨ options.mode = .boolean)
      (t.mysqlSearchMode options) := by
  unfold mysqlSearchMode
  split
  case h_1 natural => exact .ok (.inl natural)
  case h_2 boolean => exact .ok (.inr boolean)
  case h_3 phrase => exact .unsupported (by simp [phrase])
  case h_4 websearch => exact .unsupported (by simp [websearch])

theorem fullText_gated (columns : List String) (terms : String) (options : FullTextOptions) :
    Gated (t.offers (.fullText options.mode)) (t.offers (.fullText options.mode))
      (t.fullText columns terms options) := by
  cases dialect : t.dialect with
  | postgres =>
    simp only [fullText, dialect]
    exact .ok (by simp [offers, dialect])
  | mysql =>
    simp only [fullText, dialect]
    exact (mysqlSearchMode_gated options).map.mono (by simp [offers, dialect]) (by simp [offers, dialect])
  | sqlite =>
    simp only [fullText, dialect]
    exact .unsupported (by simp [offers, dialect])
  | sqlServer =>
    simp only [fullText, dialect]
    exact .unsupported (by simp [offers, dialect])

section

variable {q : Query} {p : Parts} (gated : p.Gated t q)
include gated

theorem selectList_gated : Gated True (t.Meets (selectionNeeds true q.columns)) (t.selectList q p) := by
  unfold selectList
  split
  · exact .ok trivial
  · exact gated.columns.map

theorem sourceClause_gated :
    Gated (t.Meets (sourceNeeds false q.source)) (t.Meets (sourceNeeds true q.source)) (t.sourceClause q p) := by
  unfold sourceClause
  split
  case h_1 none => exact .ok (by rw [none]; exact meets_nil)
  case h_2 table => exact .ok (by rw [table]; exact meets_nil)
  case h_3 raw => exact .ok (by rw [raw]; exact meets_nil)
  case h_4 => exact gated.source.map

theorem components_gated :
    Gated (t.Meets (q.bodyNeeds false)) (t.Meets (q.bodyNeeds true) ∧ t.Meets (selectionNeeds true q.columns))
      (t.components q p) := by
  simp only [Query.bodyNeeds, meets_append]
  unfold components
  exact ((selectList_gated gated).bind fun _ => (sourceClause_gated gated).bind fun _ => gated.joins.bind fun _ =>
    (clauseAfter_gated gated.wheres).bind fun _ => (clauseAfter_gated gated.havings).map).mono
    (by tauto) (by tauto)

theorem limitedGroups_gated {g : GroupLimit} (limited : q.groupLimit = some g) :
    Gated (t.Meets (q.needs false)) (t.Meets (q.needs true)) (t.limitedGroups q g p) := by
  rw [Query.meets_needs, Query.meets_needs]
  unfold limitedGroups
  split
  case isTrue old => exact .unsupported fun meets => offers_groupLimit.mp (meets.2.1 (by simp [limited])) old
  case isFalse recent =>
    have requires (body : t.Meets (q.bodyNeeds false)) :
        t.Meets (q.bodyNeeds false) ∧ (q.groupLimit.isSome → t.offers .groupLimit) ∧
          (false = true → t.Meets (selectionNeeds false q.columns) ∧ t.Meets (unionNeeds false q.unions)) :=
      ⟨body, fun _ => offers_groupLimit.mpr recent, nofun⟩
    -- Neither the order nor the group limit is part of what is compiled, so the parts stay gated without them.
    split
    · have inner := components_gated (q := { q with groupLimit := none, offset := none }) { gated with }
      exact inner.map.mono requires fun met => ⟨met.1, (met.2.2 rfl).1⟩
    · have inner := components_gated
        (q := { q with groupLimit := none, offset := none, orders := .column g.column .asc :: q.orders })
        { gated with }
      exact inner.map.mono requires fun met => ⟨met.1, (met.2.2 rfl).1⟩

theorem rows_gated : Gated (t.Meets (q.needs false)) (t.Meets (q.needs true)) (t.rows q p) := by
  unfold rows
  split
  case h_1 limited => exact limitedGroups_gated gated limited
  case h_2 free =>
    rw [Query.meets_needs, Query.meets_needs]
    have later (c : Components) : Gated True (t.Meets (unionNeeds true q.unions))
        (if q.unions.isEmpty then (Pure.pure c.sql : Except Error Sql)
        else do return t.unionMember c.sql ++ " " ++ t.unionTail q (← p.unions)) := by
      split
      · exact .ok trivial
      · exact gated.unions.map
    exact ((components_gated gated).bind later).mono (fun met => ⟨met.1, by simp [free], nofun⟩)
      fun met => ⟨⟨met.1, (met.2.2 rfl).1⟩, (met.2.2 rfl).2⟩

theorem assemble_gated : Gated (t.Meets (q.needs false)) (t.Meets (q.needs true)) (t.assemble q p) := by
  unfold assemble
  split
  · have inner := rows_gated (q := { q with aggregate := none }) { gated with }
    rw [Query.needs_without_aggregate, Query.needs_without_aggregate] at inner
    exact inner.map
  · exact rows_gated gated

end

end Target

theorem Gated.checked {t : Target} {op : Operator} {required sufficient : Prop} {next : Except Error Sql}
    (gated : Gated required sufficient next) :
    Gated (t.offers (.operator op) ∧ required) (t.offers (.operator op) ∧ sufficient)
      (t.check op >>= fun _ => next) := (Target.check_gated op).bind fun _ => gated

open Target (meets_nil meets_cons meets_append)

mutual

theorem Query.sql_gated (t : Target) : ∀ q : Query, Gated (t.Meets (q.needs false)) (t.Meets (q.needs true)) (q.sql t)
  | q@⟨_, columns, _, source, _, joins, wheres, _, havings, _, _, _, _, unions, _, _, _, _⟩ => by
    rw [Query.sql_eq_assemble]
    apply Target.assemble_gated
    exact {
      columns := (selectionSqls_gated t columns).mono (fun _ => trivial) id
      source := sourceSql_gated t source
      joins := joinSqls_gated t joins
      wheres := (predicateSqls_gated t wheres).map
      havings := (predicateSqls_gated t havings).map
      unions := (unionSqls_gated t unions).mono (fun _ => trivial) id }

theorem selectionSqls_gated (t : Target) : ∀ items : List Selection,
    Gated (t.Meets (selectionNeeds false items)) (t.Meets (selectionNeeds true items)) (selectionSqls t items)
  | [] => .ok meets_nil
  | item :: rest => by
    simp only [selectionNeeds, meets_append]
    exact (Selection.sql_gated t item).bind fun _ => (selectionSqls_gated t rest).map

theorem Selection.sql_gated (t : Target) : ∀ item : Selection,
    Gated (t.Meets (item.needs false)) (t.Meets (item.needs true)) (item.sql t)
  | .column _ => .ok meets_nil
  | .raw _ _ => .ok meets_nil
  | .derived q _ => (Query.sql_gated t q).map

theorem sourceSql_gated (t : Target) : ∀ source : Option Source,
    Gated (t.Meets (sourceNeeds false source)) (t.Meets (sourceNeeds true source)) (sourceSql t source)
  | none => .ok meets_nil
  | some source => Source.sql_gated t source

theorem Source.sql_gated (t : Target) : ∀ source : Source,
    Gated (t.Meets (source.needs false)) (t.Meets (source.needs true)) (source.sql t)
  | .table _ => .ok meets_nil
  | .raw _ _ => .ok meets_nil
  | .derived q _ => (Query.sql_gated t q).map

theorem joinSqls_gated (t : Target) : ∀ joins : List Join,
    Gated (t.Meets (joinNeeds false joins)) (t.Meets (joinNeeds true joins)) (joinSqls t joins)
  | [] => .ok meets_nil
  | join :: rest => by
    simp only [joinNeeds, meets_append]
    exact (Join.sql_gated t join).bind fun _ => (joinSqls_gated t rest).map

theorem Join.sql_gated (t : Target) : ∀ join : Join,
    Gated (t.Meets (join.needs false)) (t.Meets (join.needs true)) (join.sql t)
  | ⟨kind, target, on⟩ => by
    simp only [Join.needs, meets_append]
    apply (JoinTarget.sql_gated t target).bind
    intro rows
    split
    · exact (Target.lateralJoin_gated kind rows).mono (fun offered => by simp [meets_cons, meets_nil, offered])
        fun met => (meets_cons.mp met).1
    · exact Target.plainJoin_gated (predicateSqls_gated t on).map

theorem JoinTarget.sql_gated (t : Target) : ∀ target : JoinTarget,
    Gated (t.Meets (target.needs false)) (t.Meets (target.needs true)) (target.sql t)
  | .table _ => .ok meets_nil
  | .derived q _ => (Query.sql_gated t q).map
  | .lateral q _ => (Query.sql_gated t q).map

theorem predicateSqls_gated (t : Target) : ∀ clause : List Predicate,
    Gated (t.Meets (clauseNeeds false clause)) (t.Meets (clauseNeeds true clause)) (predicateSqls t clause)
  | [] => .ok meets_nil
  | test :: rest => by
    simp only [clauseNeeds, meets_append]
    exact (Predicate.sql_gated t test).bind fun _ => (predicateSqls_gated t rest).map

theorem Predicate.sql_gated (t : Target) : ∀ test : Predicate,
    Gated (t.Meets (test.needs false)) (t.Meets (test.needs true)) (test.sql t)
  | ⟨condition, _, _⟩ => (Condition.sql_gated t condition).map

theorem Condition.sql_gated (t : Target) : ∀ condition : Condition,
    Gated (t.Meets (condition.needs false)) (t.Meets (condition.needs true)) (condition.sql t)
  | .compare _ _ _ => Gated.checked (.ok meets_nil) |>.mono meets_cons.mpr meets_cons.mp
  | .compareColumns _ _ _ => Gated.checked (.ok meets_nil) |>.mono meets_cons.mpr meets_cons.mp
  | .raw _ _ => .ok meets_nil
  | .nested clause => (predicateSqls_gated t clause).map
  | .hasRows query => (Subquery.sql_gated t query).map
  | .isNull _ _ => .ok meets_nil
  | .datePart _ _ _ _ => Gated.checked (.ok meets_nil) |>.mono meets_cons.mpr meets_cons.mp
  | .inList _ _ _ => .ok meets_nil
  | .inQuery _ query _ => (Subquery.sql_gated t query).map
  | .between _ _ _ _ => .ok meets_nil
  | .betweenColumns _ _ _ _ => .ok meets_nil
  | .compareQuery _ _ query => Gated.checked (Subquery.sql_gated t query).map |>.mono meets_cons.mpr meets_cons.mp
  | .compareRow _ _ _ => Gated.checked (.ok meets_nil) |>.mono meets_cons.mpr meets_cons.mp
  | .jsonContains column document => (Target.jsonContains_gated column document).mono
      (fun offered => meets_cons.mpr ⟨offered, meets_nil⟩) fun met => (meets_cons.mp met).1
  | .jsonHasKey column => (Target.jsonHasKey_gated column).map.mono (fun _ => meets_nil) fun _ => trivial
  | .jsonLength _ _ _ => Gated.checked (.ok meets_nil) |>.mono meets_cons.mpr meets_cons.mp
  | .fullText columns terms options => (Target.fullText_gated columns terms options).mono
      (fun offered => meets_cons.mpr ⟨offered, meets_nil⟩) fun met => (meets_cons.mp met).1

theorem Subquery.sql_gated (t : Target) : ∀ query : Subquery,
    Gated (t.Meets (query.needs false)) (t.Meets (query.needs true)) (query.sql t)
  | .query q => Query.sql_gated t q
  | .raw _ _ => .ok meets_nil

theorem unionSqls_gated (t : Target) : ∀ unions : List Union,
    Gated (t.Meets (unionNeeds false unions)) (t.Meets (unionNeeds true unions)) (unionSqls t unions)
  | [] => .ok meets_nil
  | ⟨query, _⟩ :: rest => by
    simp only [unionNeeds, meets_append]
    exact (Query.sql_gated t query).bind fun _ => (unionSqls_gated t rest).map

end

theorem Gated.finish {t : Target} {q : Query} {required sufficient : Prop} {sql : Except Error Sql}
    (gated : Gated required sufficient sql) :
    Gated required sufficient (sql >>= fun s => q.finish t s.text) := by
  have counted (s : Sql) : Gated True True (q.finish t s.text) := by
    unfold Query.finish Dialect.finish
    split
    · exact .ok trivial
    · exact ⟨nofun, fun _ _ _ => nofun⟩
  exact (gated.bind counted).mono And.left fun holds => ⟨holds, trivial⟩

namespace Query

/-- A select statement is reached only for a database that has what the query needs in its conditions and in the queries
that stand there, in its joins or as its source, at any depth. A database that has what the query needs anywhere is
never refused the statement as one that it does not support. -/
theorem selectStatement_gated (t : Target) (q : Query) :
    (∀ st, q.selectStatement t = .ok st → ∀ need ∈ q.needs false, t.offers need) ∧
      ((∀ need ∈ q.needs true, t.offers need) →
        ∀ name feature, q.selectStatement t ≠ .error (.unsupported name feature)) :=
  have gated : Gated (t.Meets (q.needs false)) (t.Meets (q.needs true)) (q.selectStatement t) :=
    (q.sql_gated t).finish
  ⟨gated.sound, gated.complete⟩

def visitsOfFound : Query where
  source := some (.table "staff")
  joins := [⟨.left, .lateral {
    source := some (.table "visits"), wheres := [⟨.jsonContains "tags" .null, .and, false⟩] } "v", []⟩]
  wheres := [⟨.nested [⟨.compare "name" .iLike (.value (.text "a%")), .and, false⟩], .and, false⟩]

theorem visitsOfFound_gated :
    visitsOfFound.needs false = [.jsonContainment, .lateralJoin .left, .operator .iLike] ∧
    (∃ st, visitsOfFound.selectStatement { dialect := .postgres } = .ok st) ∧
    (∀ need ∈ visitsOfFound.needs false, Target.offers { dialect := .postgres } need) ∧
    (∀ need ∈ visitsOfFound.needs true, Target.offers { dialect := .postgres } need) ∧
    ∀ name feature,
      visitsOfFound.selectStatement { dialect := .postgres } ≠ .error (.unsupported name feature) := by
  obtain ⟨sound, complete⟩ := selectStatement_gated { dialect := .postgres } visitsOfFound
  obtain ⟨st, reached, -⟩ : ∃ st, visitsOfFound.selectStatement { dialect := .postgres } = .ok st ∧ true :=
    ok_of_any (fun _ => true) (by decide +kernel)
  have offered : ∀ need ∈ visitsOfFound.needs true, Target.offers { dialect := .postgres } need := by decide
  exact ⟨rfl, ⟨st, reached⟩, sound st reached, offered, complete offered⟩

end Query

end SqlCompiler
