import SqlCompiler.Proofs.Erasure.Assembly
import SqlCompiler.Select.Compile

namespace SqlCompiler

def SameTests (tests tests' : List (Conjunction × Sql)) : Prop :=
  List.Forall₂ (fun test test' => test.1 = test'.1 ∧ test.2.SameText test'.2) tests tests'

theorem joinConditions_text : ∀ {tests tests' : List (Conjunction × Sql)}, SameTests tests tests' →
    (joinConditions tests).SameText (joinConditions tests')
  | [], [], .nil => rfl
  | [_], [_], .cons only .nil => only.2
  | (_, first) :: (word, _) :: _, (_, first') :: (word', _) :: _, .cons head later@(.cons next _) => by
    have text : first.SameText first' := head.2
    have words : word.sql = word'.sql := congrArg Conjunction.sql next.1
    have rest := joinConditions_text later
    simp only [joinConditions, words]
    exact (((text.before _).before _).before _).append rest

theorem Target.plainJoin_agree (kind : JoinKind) (on : Clause) {target target' : Sql} (text : target.SameText target')
    {conditions conditions' : Except Error Sql} (same : Agree Sql.SameText conditions conditions') :
    Agree Sql.SameText (plainJoin kind target (eraseClause on) conditions) (plainJoin kind target' on conditions') := by
  simp only [plainJoin, isEmpty_eraseClause]
  split
  · exact .ok (text.after _)
  · exact same.map fun a b texts => ((text.after _).before _).append texts

theorem Target.lateralJoin_agree (t : Target) (kind : JoinKind) {target target' : Sql}
    (text : target.SameText target') :
    Agree Sql.SameText (t.lateralJoin kind target) (t.lateralJoin kind target') := by
  unfold lateralJoin
  split
  · exact .error _
  · split
    · exact .ok (text.after _)
    · exact .ok (text.after _)
    · exact .ok (text.after _)
    · exact .error _
    · exact .ok ((text.after _).before _)

theorem Target.derivedTable_text (t : Target) (label : String) {rows rows' : Sql} (text : rows.SameText rows') :
    (t.derivedTable rows label).SameText (t.derivedTable rows' label) := ((text.after _).before _).before _

theorem Agree.checked {t : Target} {op : Operator} {first second : Except Error Sql}
    (agree : Agree Sql.SameText first second) :
    Agree Sql.SameText (t.check op >>= fun _ => first) (t.check op >>= fun _ => second) :=
  (Agree.refl (R := Eq) (fun _ => rfl) _).bind fun _ _ _ => agree

mutual

theorem Query.sql_erase (t : Target) : ∀ q : Query, Agree Sql.SameText (q.erase.sql t) (q.sql t)
  | q@⟨_, columns, _, source, _, joins, wheres, _, havings, _, _, _, _, unions, _, _, _, _⟩ => by
    rw [Query.sql_eq_assemble, Query.sql_eq_assemble]
    apply Target.assemble_agree
    exact {
      columns := selectionSqls_erase t columns
      source := sourceSql_erase t source
      joins := joinSqls_erase t joins
      wheres := (predicateSqls_erase t wheres).map fun _ _ tests => joinConditions_text tests
      havings := (predicateSqls_erase t havings).map fun _ _ tests => joinConditions_text tests
      unions := unionSqls_erase t unions }

theorem selectionSqls_erase (t : Target) : ∀ items : List Selection,
    Agree Sql.SameTexts (selectionSqls t (eraseSelections items)) (selectionSqls t items)
  | [] => .ok rfl
  | item :: rest => by
    apply (Selection.sql_erase t item).bind
    intro first first' text
    exact (selectionSqls_erase t rest).map fun _ _ texts => Sql.SameTexts.cons text texts

theorem Selection.sql_erase (t : Target) : ∀ item : Selection, Agree Sql.SameText (item.erase.sql t) (item.sql t)
  | .column _ => .ok rfl
  | .raw _ _ => .ok rfl
  | .derived q _ => (Query.sql_erase t q).map fun _ _ text => ((text.after _).before _).before _

theorem sourceSql_erase (t : Target) : ∀ source : Option Source,
    Agree Sql.SameText (sourceSql t (eraseSource source)) (sourceSql t source)
  | none => .ok rfl
  | some source => Source.sql_erase t source

theorem Source.sql_erase (t : Target) : ∀ source : Source, Agree Sql.SameText (source.erase.sql t) (source.sql t)
  | .table _ => .ok rfl
  | .raw _ _ => .ok rfl
  | .derived q label => (Query.sql_erase t q).map fun _ _ text => t.derivedTable_text label text

theorem joinSqls_erase (t : Target) : ∀ items : List Join,
    Agree Sql.SameTexts (joinSqls t (eraseJoins items)) (joinSqls t items)
  | [] => .ok rfl
  | item :: rest => by
    apply (Join.sql_erase t item).bind
    intro first first' text
    exact (joinSqls_erase t rest).map fun _ _ texts => Sql.SameTexts.cons text texts

theorem Join.sql_erase (t : Target) : ∀ join : Join, Agree Sql.SameText (join.erase.sql t) (join.sql t)
  | ⟨kind, target, on⟩ => by
    apply (JoinTarget.sql_erase t target).bind
    intro rows rows' text
    rw [isLateral_erase]
    split
    · exact t.lateralJoin_agree kind text
    · have tests := (predicateSqls_erase t on).map fun _ _ tests => joinConditions_text tests
      exact Target.plainJoin_agree kind on text tests

theorem JoinTarget.sql_erase (t : Target) : ∀ target : JoinTarget,
    Agree Sql.SameText (target.erase.sql t) (target.sql t)
  | .table _ => .ok rfl
  | .derived q label => (Query.sql_erase t q).map fun _ _ text => t.derivedTable_text label text
  | .lateral q label => (Query.sql_erase t q).map fun _ _ text => t.derivedTable_text label text

theorem predicateSqls_erase (t : Target) : ∀ clause : List Predicate,
    Agree SameTests (predicateSqls t (eraseClause clause)) (predicateSqls t clause)
  | [] => .ok .nil
  | item :: rest => by
    apply (Predicate.sql_erase t item).bind
    intro first first' test
    exact (predicateSqls_erase t rest).map fun _ _ tests => .cons test tests

theorem Predicate.sql_erase (t : Target) : ∀ p : Predicate,
    Agree (fun test test' => test.1 = test'.1 ∧ test.2.SameText test'.2) (p.erase.sql t) (p.sql t)
  | ⟨condition, _, _⟩ => (Condition.sql_erase t condition).map fun _ _ text => ⟨rfl, text.after _⟩

theorem Condition.sql_erase (t : Target) : ∀ condition : Condition,
    Agree Sql.SameText (condition.erase.sql t) (condition.sql t)
  | .compare column op value => Agree.checked (.pure (t.comparison_erase column op value))
  | .compareColumns _ _ _ => Agree.checked (.pure rfl)
  | .raw _ _ => .ok rfl
  | .nested clause =>
    (predicateSqls_erase t clause).map fun _ _ tests => ((joinConditions_text tests).after _).before _
  | .hasRows query => (Subquery.sql_erase t query).map fun _ _ text => (text.after _).before _
  | .isNull _ _ => .ok rfl
  | .datePart column part op value => Agree.checked (.pure (t.datePartComparison_erase column part op value))
  | .inList column values negated => .ok (t.membership_erase column values negated)
  | .inQuery _ query _ => (Subquery.sql_erase t query).map fun _ _ text => (text.after _).before _
  | .between _ low high _ => by
    have first : low.erase.sql.SameText low.sql := low.text_erase
    have last : high.erase.sql.SameText high.sql := high.text_erase
    exact .ok (((first.after _).before _).append last)
  | .betweenColumns _ _ _ _ => .ok rfl
  | .compareQuery _ _ query =>
    Agree.checked ((Subquery.sql_erase t query).map fun _ _ text => (text.after _).before _)
  | .compareRow _ _ values => by
    have list : (parameters (values.map Operand.erase)).SameText (parameters values) := parameters_text_erase values
    exact Agree.checked (.pure ((list.after _).before _))
  | .jsonContains column document => t.jsonContains_agree column .null document
  | .jsonHasKey _ => Agree.refl (R := Sql.SameText) (fun _ => rfl) _
  | .jsonLength _ _ value => by
    have operand : value.erase.sql.SameText value.sql := value.text_erase
    exact Agree.checked (.pure (operand.after _))
  | .fullText columns terms options => t.fullText_agree columns "" terms options

theorem Subquery.sql_erase (t : Target) : ∀ query : Subquery, Agree Sql.SameText (query.erase.sql t) (query.sql t)
  | .query q => Query.sql_erase t q
  | .raw _ _ => .ok rfl

theorem unionSqls_erase (t : Target) : ∀ unions : List Union,
    Agree Sql.SameTexts (unionSqls t (eraseUnions unions)) (unionSqls t unions)
  | [] => .ok rfl
  | ⟨q, all⟩ :: rest => by
    apply (Query.sql_erase t q).bind
    intro rows rows' text
    have member := t.unionMember_text text
    exact (unionSqls_erase t rest).map fun _ _ texts => Sql.SameTexts.cons (member.after _) texts

end

end SqlCompiler
