import SqlCompiler.Select.Compile

namespace SqlCompiler

inductive Need
  | operator (op : Operator)
  | lateralJoin (kind : JoinKind)
  | jsonContainment
  | fullText (mode : FullTextMode)
  | groupLimit
deriving DecidableEq

namespace Target

/-- The database has what is needed. A database of unknown version is taken to be a new one. -/
def offers (t : Target) : Need → Bool
  | .operator op => op ∈ t.dialect.operators
  | .lateralJoin kind =>
    match t.dialect with
    | .postgres => true
    | .mysql => t.version.all fun v => !v.mariadb && v.atLeast 8 0 14
    | .sqlite => false
    | .sqlServer => kind ≠ .right
  | .jsonContainment => t.dialect ≠ .sqlite
  | .fullText mode =>
    match t.dialect with
    | .postgres => true
    | .mysql => mode = .natural ∨ mode = .boolean
    | .sqlite | .sqlServer => false
  | .groupLimit => t.dialect ≠ .sqlite || t.version.all fun v => v.atLeast 3 25 0

def Meets (t : Target) (needs : List Need) : Prop := ∀ need ∈ needs, t.offers need

variable {t : Target}

theorem meets_nil : t.Meets [] := List.forall_mem_nil _

theorem meets_cons {need : Need} {needs : List Need} : t.Meets (need :: needs) ↔ t.offers need ∧ t.Meets needs :=
  List.forall_mem_cons

theorem meets_append {needs more : List Need} : t.Meets (needs ++ more) ↔ t.Meets needs ∧ t.Meets more :=
  List.forall_mem_append

end Target

mutual

/-- What a query needs in its conditions, the conditions of joins that are not lateral, its group limit, and the
queries that stand there, in a join or as the source. With `whole` also what it needs elsewhere: in the select list,
in the members of its union and in the conditions of lateral joins. -/
def Query.needs (whole : Bool) : Query → List Need
  | ⟨_, columns, _, source, _, joins, wheres, _, havings, _, _, _, groupLimit, unions, _, _, _, _⟩ =>
    sourceNeeds whole source ++ joinNeeds whole joins ++ clauseNeeds whole wheres ++ clauseNeeds whole havings ++
      (groupLimit.toList.map fun _ => .groupLimit) ++
      (if whole then selectionNeeds whole columns ++ unionNeeds whole unions else [])

def selectionNeeds (whole : Bool) : List Selection → List Need
  | [] => []
  | item :: rest => item.needs whole ++ selectionNeeds whole rest

def Selection.needs (whole : Bool) : Selection → List Need
  | .column _ | .raw _ _ => []
  | .derived query _ => query.needs whole

def sourceNeeds (whole : Bool) : Option Source → List Need
  | none => []
  | some source => source.needs whole

def Source.needs (whole : Bool) : Source → List Need
  | .table _ | .raw _ _ => []
  | .derived query _ => query.needs whole

def joinNeeds (whole : Bool) : List Join → List Need
  | [] => []
  | join :: rest => join.needs whole ++ joinNeeds whole rest

def Join.needs (whole : Bool) : Join → List Need
  | ⟨kind, target, on⟩ =>
    target.needs whole ++
      if target.isLateral then .lateralJoin kind :: (if whole then clauseNeeds whole on else [])
      else clauseNeeds whole on

def JoinTarget.needs (whole : Bool) : JoinTarget → List Need
  | .table _ => []
  | .derived query _ | .lateral query _ => query.needs whole

def clauseNeeds (whole : Bool) : List Predicate → List Need
  | [] => []
  | test :: rest => test.needs whole ++ clauseNeeds whole rest

def Predicate.needs (whole : Bool) : Predicate → List Need
  | ⟨condition, _, _⟩ => condition.needs whole

def Condition.needs (whole : Bool) : Condition → List Need
  | .compare _ op _ | .compareColumns _ op _ | .datePart _ _ op _ | .compareRow _ op _ | .jsonLength _ op _ =>
    [.operator op]
  | .compareQuery _ op query => .operator op :: query.needs whole
  | .nested clause => clauseNeeds whole clause
  | .hasRows query | .inQuery _ query _ => query.needs whole
  | .jsonContains _ _ => [.jsonContainment]
  | .fullText _ _ options => [.fullText options.mode]
  | .raw _ _ | .isNull _ _ | .inList _ _ _ | .between _ _ _ _ | .betweenColumns _ _ _ _ | .jsonHasKey _ => []

def Subquery.needs (whole : Bool) : Subquery → List Need
  | .query q => q.needs whole
  | .raw _ _ => []

def unionNeeds (whole : Bool) : List Union → List Need
  | [] => []
  | ⟨query, _⟩ :: rest => query.needs whole ++ unionNeeds whole rest

end

namespace Query

def bodyNeeds (whole : Bool) (q : Query) : List Need :=
  sourceNeeds whole q.source ++ joinNeeds whole q.joins ++ clauseNeeds whole q.wheres ++ clauseNeeds whole q.havings

theorem meets_needs {t : Target} (whole : Bool) (q : Query) :
    t.Meets (q.needs whole) ↔
      t.Meets (q.bodyNeeds whole) ∧ (q.groupLimit.isSome → t.offers .groupLimit) ∧
        (whole → t.Meets (selectionNeeds whole q.columns) ∧ t.Meets (unionNeeds whole q.unions)) := by
  obtain ⟨_, columns, _, source, _, joins, wheres, _, havings, _, _, _, groupLimit, unions, _, _, _, _⟩ := q
  simp only [needs, bodyNeeds, Target.meets_append, and_assoc]
  cases groupLimit <;> cases whole <;> simp [Target.meets_nil, Target.meets_cons, Target.meets_append]

theorem needs_without_aggregate (whole : Bool) (q : Query) :
    ({ q with aggregate := none } : Query).needs whole = q.needs whole := by
  cases q
  rfl

end Query

end SqlCompiler
