import SqlCompiler.Proofs.Retention.Nested

namespace SqlCompiler

namespace Query

/-- The members of the union are written in the text, in their order, and behind them the order and the paging of the
union as a whole. -/
def WritesUnion (t : Target) (q : Query) (text : String) : Prop :=
  ∃ members, List.Forall₂ (fun u member => u.sql t = .ok member) q.unions members ∧
    InOrder (members.map Sql.text ++ t.unionEnd q) text

def withoutUnion (q : Query) : Query :=
  { q with unions := [], unionOrders := [], unionLimit := none, unionOffset := none }

section

variable {t : Target} {q : Query}

theorem writesUnion_of_rows (free : q.groupLimit = none) (some : q.unions ≠ []) {s : Sql}
    (compiled : t.rows q (q.parts t) = .ok s) : q.WritesUnion t s.text := by
  obtain ⟨members, compiled, inRows⟩ := (Target.freeRows_standIn free compiled).2 some
  exact ⟨members, unionSqls_ok compiled, (t.unionTail_inOrder q members).within inRows⟩

theorem writesUnion_of_sql (free : q.groupLimit = none) (some : q.unions ≠ []) {s : Sql}
    (compiled : q.sql t = .ok s) : q.WritesUnion t s.text := by
  rw [sql_eq_assemble] at compiled
  obtain ⟨aggregate, rows, -, found, inWhole⟩ := Target.rows_of_assemble compiled
  obtain ⟨members, each, inOrder⟩ := writesUnion_of_rows (q := { q with aggregate }) free some found
  exact ⟨members, each, inOrder.within inWhole⟩

theorem limitedGroups_withoutUnion (aggregate : Option Aggregate) (g : GroupLimit) :
    t.limitedGroups { q with aggregate } g (q.parts t) =
      t.limitedGroups { q.withoutUnion with aggregate } g (q.withoutUnion.parts t) := rfl

/-- A union is lost on limited groups, and without members there is none. -/
theorem sql_withoutUnion (lost : q.groupLimit.isSome ∨ q.unions = []) : q.sql t = q.withoutUnion.sql t := by
  have derived : Target.aggregatesDerived q.withoutUnion = Target.aggregatesDerived q := by
    rcases lost with limited | none
    · simp [Target.aggregatesDerived, withoutUnion, limited]
    · simp [Target.aggregatesDerived, withoutUnion, none]
  have same (aggregate : Option Aggregate) : t.rows { q with aggregate } (q.parts t) =
      t.rows { q.withoutUnion with aggregate } (q.withoutUnion.parts t) := by
    cases limit : q.groupLimit with
    | some g =>
      simp only [Target.rows, withoutUnion, limit]
      exact limitedGroups_withoutUnion aggregate g
    | none =>
      have none : q.unions = [] := lost.resolve_left (by simp [limit])
      simp only [Target.rows, withoutUnion, limit, none, List.isEmpty_nil, if_true]
      rfl
  rw [sql_eq_assemble, sql_eq_assemble, Target.assemble, Target.assemble, derived, same none]
  split
  · rfl
  · exact same q.aggregate

/-- The union of each query that is written in a select statement is written with it, as far as the rows of that query
are not limited by groups. A union of limited groups leaves no trace. -/
theorem unions_written {st : Statement} (compiled : q.selectStatement t = .ok st) {inner : Query}
    (writes : q.Writes inner) (some : inner.unions ≠ []) :
    (inner.groupLimit = none → inner.WritesUnion t st.sql) ∧
      (inner.groupLimit.isSome → inner.sql t = inner.withoutUnion.sql t) := by
  obtain ⟨s, found, text⟩ := selectStatement_ok compiled
  obtain ⟨rows, found, inWhole⟩ := writes.standsIn found
  refine ⟨fun free => ?_, fun limited => sql_withoutUnion (.inl limited)⟩
  obtain ⟨members, compiled, inOrder⟩ := writesUnion_of_sql free some found
  exact ⟨members, compiled, text ▸ inOrder.within inWhole⟩

end

def places : Query where
  source := some (.table "departments")
  unions := [⟨{ source := some (.table "branches") }, true⟩]
  unionLimit := some 3

def workers : Query where
  source := some (.table "staff")
  wheres := [⟨.inQuery "place" (.query places) false, .and, false⟩]

theorem workers_write_places : ∃ st, workers.selectStatement { dialect := .postgres } = .ok st ∧
    st.sql = "SELECT * FROM \"staff\" WHERE \"place\" IN ((SELECT * FROM \"departments\") " ++
      "UNION ALL (SELECT * FROM \"branches\") LIMIT 3)" ∧
    places.WritesUnion { dialect := .postgres } st.sql := by
  obtain ⟨st, compiled, text⟩ : ∃ st, workers.selectStatement { dialect := .postgres } = .ok st ∧
      (st.sql == "SELECT * FROM \"staff\" WHERE \"place\" IN ((SELECT * FROM \"departments\") " ++
        "UNION ALL (SELECT * FROM \"branches\") LIMIT 3)") := ok_of_any _ (by decide +kernel)
  have writes : workers.Writes places := .single (.wheres (List.mem_singleton.mpr rfl) (.inQuery _ _ _))
  exact ⟨st, compiled, eq_of_beq text, (unions_written compiled writes (by simp [places])).1 rfl⟩

def firstOfStaff : Query where
  source := some (.table "staff")
  groupLimit := some ⟨1, "department"⟩
  unions := [⟨{ source := some (.table "contractors") }, false⟩]

/-- Where the contractors should be, the text ends. -/
theorem firstOfStaff_loses_contractors : ∃ st, firstOfStaff.selectStatement { dialect := .postgres } = .ok st ∧
    ¬ firstOfStaff.WritesUnion { dialect := .postgres } st.sql := by
  obtain ⟨st, compiled, absent⟩ : ∃ st, firstOfStaff.selectStatement { dialect := .postgres } = .ok st ∧
      st.sql.toList.all (· ≠ 'c') := ok_of_any _ (by decide +kernel)
  refine ⟨st, compiled, fun ⟨members, written, inOrder⟩ => ?_⟩
  obtain ⟨member, inMembers, found⟩ := exists_of_forall₂ written
    (a := ⟨{ source := some (.table "contractors") }, false⟩) (by simp [firstOfStaff])
  have stands := inOrder.standsIn (List.mem_append_left _ (List.mem_map_of_mem inMembers))
  have named : 'c' ∈ member.text.toList := by
    cases found
    decide +kernel
  exact not_standsIn absent named stands

end Query

end SqlCompiler
