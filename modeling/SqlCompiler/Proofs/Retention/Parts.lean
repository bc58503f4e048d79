import SqlCompiler.Proofs.Retention.Standing
import SqlCompiler.Select.Assembly

namespace SqlCompiler

def Components.unordered (c : Components) : List Sql :=
  [c.columns, c.source, c.joins, c.wheres, c.havings] ++ c.paging

/-- The parts of a query stand in the SQL: the items of its select list where it has one, the source of its rows, its
joins one behind the other, and its conditions behind their keywords. -/
structure Parts.StandIn (p : Parts) (q : Query) (s : Sql) : Prop where
  columns : q.aggregate = none → ∃ items, p.columns = .ok items ∧ InOrder (items.map Sql.text) s.text
  source : ∀ rows label, q.source = some (.derived rows label) →
    ∃ sql, p.source = .ok sql ∧ StandsIn sql.text s.text
  joins : ∃ joins, p.joins = .ok joins ∧ InOrder (joins.map Sql.text) s.text
  wheres : q.wheres ≠ [] → ∃ sql, p.wheres = .ok sql ∧ StandsIn ("WHERE " ++ sql.text) s.text
  havings : q.havings ≠ [] → ∃ sql, p.havings = .ok sql ∧ StandsIn ("HAVING " ++ sql.text) s.text

theorem Parts.StandIn.trans {p : Parts} {q : Query} {s whole : Sql} (parts : p.StandIn q s)
    (stands : StandsIn s.text whole.text) : p.StandIn q whole where
  columns plain := by
    obtain ⟨items, compiled, order⟩ := parts.columns plain
    exact ⟨items, compiled, order.within stands⟩
  source rows label found := by
    obtain ⟨sql, compiled, inner⟩ := parts.source rows label found
    exact ⟨sql, compiled, inner.trans stands⟩
  joins := by
    obtain ⟨joins, compiled, order⟩ := parts.joins
    exact ⟨joins, compiled, order.within stands⟩
  wheres some := by
    obtain ⟨sql, compiled, inner⟩ := parts.wheres some
    exact ⟨sql, compiled, inner.trans stands⟩
  havings some := by
    obtain ⟨sql, compiled, inner⟩ := parts.havings some
    exact ⟨sql, compiled, inner.trans stands⟩

namespace Target

theorem clauseAfter_ok {keyword : String} {clause : Clause} {sql : Except Error Sql} {s : Sql}
    (compiled : clauseAfter keyword clause sql = .ok s) (some : clause ≠ []) :
    ∃ tests, sql = .ok tests ∧ s.text = keyword ++ " " ++ tests.text := by
  rw [clauseAfter, if_neg (by simpa using some)] at compiled
  obtain ⟨tests, found, rfl⟩ := ok_of_map compiled
  exact ⟨tests, found, by simp⟩

section

variable {t : Target} {q : Query} {p : Parts} {s : Sql}

theorem selectList_ok {list : Sql} (compiled : t.selectList q p = .ok list) (plain : q.aggregate = none) :
    ∃ items, p.columns = .ok items ∧ InOrder (items.map Sql.text) list.text := by
  rw [selectList, if_neg (by simp [plain])] at compiled
  obtain ⟨items, found, rfl⟩ := ok_of_map compiled
  refine ⟨items, found, ?_⟩
  rw [Sql.text_append]
  apply InOrder.after
  split
  · rename_i nothing
    rw [List.isEmpty_iff.mp nothing]
    exact True.intro
  · exact Sql.join_inOrder (.inr (.inr rfl)) items

theorem sourceClause_ok {clause : Sql} {rows : Query} {label : String} (compiled : t.sourceClause q p = .ok clause)
    (derived : q.source = some (.derived rows label)) :
    ∃ sql, p.source = .ok sql ∧ StandsIn sql.text clause.text := by
  simp only [sourceClause, derived] at compiled
  obtain ⟨sql, found, rfl⟩ := ok_of_map compiled
  rw [Sql.text_append]
  exact ⟨sql, found, (StandsIn.refl _).after _⟩

theorem components_standIn {c : Components} (compiled : t.components q p = .ok c)
    (written : ∀ part ∈ c.unordered, StandsIn part.text s.text) :
    p.StandIn q s ∧ ∀ word ∈ t.queryPaging q, StandsIn word s.text := by
  obtain ⟨columns, list, compiled⟩ := ok_of_bind compiled
  obtain ⟨source, clause, compiled⟩ := ok_of_bind compiled
  obtain ⟨joins, joined, compiled⟩ := ok_of_bind compiled
  obtain ⟨wheres, tested, compiled⟩ := ok_of_bind compiled
  obtain ⟨havings, filtered, rfl⟩ := ok_of_map compiled
  simp only [Components.unordered, List.cons_append, List.nil_append, List.forall_mem_cons] at written
  obtain ⟨inColumns, inSource, inJoins, inWheres, inHavings, inPaging⟩ := written
  refine ⟨⟨fun plain => ?_, fun rows label found => ?_, ?_, fun some => ?_, fun some => ?_⟩, fun word member => ?_⟩
  · obtain ⟨items, found, order⟩ := selectList_ok list plain
    exact ⟨items, found, order.within inColumns⟩
  · obtain ⟨sql, compiled, inner⟩ := sourceClause_ok clause found
    exact ⟨sql, compiled, inner.trans inSource⟩
  · exact ⟨joins, joined, (Sql.join_inOrder (.inl rfl) joins).within inJoins⟩
  · obtain ⟨sql, found, text⟩ := clauseAfter_ok tested some
    exact ⟨sql, found, text ▸ inWheres⟩
  · obtain ⟨sql, found, text⟩ := clauseAfter_ok filtered some
    exact ⟨sql, found, text ▸ inHavings⟩
  · simpa using inPaging (Sql.ofText word) (List.mem_map_of_mem member)

theorem unordered_standIn {c : Components} {part : Sql} (member : part ∈ c.unordered) :
    StandsIn part.text c.sql.text := by
  apply Sql.concat_standsIn
  simp only [Components.unordered, List.cons_append, List.nil_append, List.mem_cons] at member
  simp only [Components.named, List.map_append, List.map_cons, List.map_nil, List.map_map, Function.comp_def,
    List.map_id', List.mem_append, List.mem_cons]
  tauto

theorem unionMember_standsIn (rows : Sql) : StandsIn rows.text (t.unionMember rows).text := by
  unfold unionMember
  split
  · exact Sql.standsIn_between "(" rows (.inr (.inl rfl))
  · exact Sql.standsIn_between "(" rows (.inr (.inl rfl))
  · exact Sql.standsIn_between "SELECT * FROM (" rows (.inr (.inl rfl))
  · exact Sql.standsIn_inside _ rows _ (.inr (.inl rfl))

theorem rowNumber_breaks (column : String) (orders : Sql) : Breaks (t.rowNumber column orders).text := by
  unfold rowNumber
  rw [Sql.append_assoc, Sql.append_assoc]
  exact Sql.breaks_ofText (.inr (.inr rfl)) _

theorem numberedGroups_standIn {g : GroupLimit} (compiled : t.numberedGroups q g p = .ok s) :
    ∃ c, t.components { q with groupLimit := none, offset := none } p = .ok c ∧
      (∀ part ∈ c.unordered, StandsIn part.text s.text) ∧ StandsIn (t.rowRange g q.offset) s.text := by
  obtain ⟨c, found, rfl⟩ := ok_of_map compiled
  generalize filled : { c with columns := c.columns ++ t.rowNumber g.column c.orders, orders := .empty } = numbered
  refine ⟨c, found, fun part member => ?_, Sql.standsIn_last _ _⟩
  have inNumbered : StandsIn part.text numbered.sql.text := by
    simp only [Components.unordered, List.cons_append, List.nil_append, List.mem_cons] at member
    -- the select list goes on with the row number, and the other parts are written as they are
    rcases member with rfl | later
    · have list : numbered.columns = c.columns ++ t.rowNumber g.column c.orders := by rw [← filled]
      have inList := Sql.standsIn_left c.columns (rowNumber_breaks (t := t) g.column c.orders)
      exact (list ▸ inList).trans (unordered_standIn (by simp [Components.unordered]))
    · apply unordered_standIn
      simp only [← filled, Components.unordered, List.cons_append, List.nil_append, List.mem_cons]
      exact .inr later
  rw [Sql.append_assoc, Sql.append_assoc]
  exact inNumbered.trans (Sql.standsIn_inside _ _ _ (.inr (.inl rfl)))

theorem countedGroups_standIn {g : GroupLimit} (compiled : t.countedGroups q g p = .ok s) :
    ∃ c, t.components { q with groupLimit := none, offset := none, orders := .column g.column .asc :: q.orders } p =
        .ok c ∧
      (∀ part ∈ c.unordered, StandsIn part.text s.text) ∧ StandsIn (t.rowRange g q.offset) s.text := by
  obtain ⟨c, found, rfl⟩ := ok_of_map compiled
  refine ⟨c, found, fun part member => ?_, Sql.standsIn_last _ _⟩
  rw [Sql.append_assoc, Sql.append_assoc]
  exact (unordered_standIn member).trans (Sql.standsIn_inside _ _ _ (.inr (.inl rfl)))

theorem limitedGroups_standIn {g : GroupLimit} (compiled : t.limitedGroups q g p = .ok s) :
    (p.StandIn q s ∧ ∀ word ∈ t.queryPaging { q with offset := none }, StandsIn word s.text) ∧
      StandsIn (t.rowRange g q.offset) s.text := by
  unfold limitedGroups at compiled
  split at compiled
  · cases compiled
  · split at compiled
    · obtain ⟨c, found, written, range⟩ := numberedGroups_standIn compiled
      obtain ⟨⟨columns, source, joins, wheres, havings⟩, paging⟩ := components_standIn found written
      exact ⟨⟨⟨columns, source, joins, wheres, havings⟩, paging⟩, range⟩
    · obtain ⟨c, found, written, range⟩ := countedGroups_standIn compiled
      obtain ⟨⟨columns, source, joins, wheres, havings⟩, paging⟩ := components_standIn found written
      exact ⟨⟨⟨columns, source, joins, wheres, havings⟩, paging⟩, range⟩

def unionEnd (t : Target) (q : Query) : List String :=
  (if q.unionOrders.isEmpty then [] else [(t.orderBy q.unionOrders).text]) ++ t.unionPaging q

theorem unionTail_inOrder (t : Target) (q : Query) (members : List Sql) :
    InOrder (members.map Sql.text ++ t.unionEnd q) (t.unionTail q members).text := by
  have parts : members.map Sql.text ++ t.unionEnd q =
      (members ++ (if q.unionOrders.isEmpty then [] else [t.orderBy q.unionOrders]) ++
        (t.unionPaging q).map Sql.ofText).map Sql.text := by
    unfold unionEnd
    split <;> simp [Function.comp_def]
  rw [parts]
  exact Sql.join_inOrder (.inl rfl) _

theorem freeRows_standIn (free : q.groupLimit = none) (compiled : t.rows q p = .ok s) :
    (p.StandIn q s ∧ ∀ word ∈ t.queryPaging q, StandsIn word s.text) ∧
      (q.unions ≠ [] → ∃ members, p.unions = .ok members ∧ StandsIn (t.unionTail q members).text s.text) := by
  simp only [rows, free] at compiled
  obtain ⟨c, found, compiled⟩ := ok_of_bind compiled
  split at compiled
  · rename_i none
    cases compiled
    exact ⟨components_standIn found fun part => unordered_standIn, fun some => absurd (List.isEmpty_iff.mp none) some⟩
  · obtain ⟨members, compiledMembers, rfl⟩ := ok_of_map compiled
    refine ⟨components_standIn found fun part member => ?_, fun _ => ⟨members, compiledMembers, ?_⟩⟩
    · rw [Sql.append_assoc]
      exact ((unordered_standIn member).trans (unionMember_standsIn c.sql)).trans
        (Sql.standsIn_left _ (Sql.breaks_ofText (.inl rfl) _))
    · exact Sql.standsIn_right _ _

theorem rows_standIn (compiled : t.rows q p = .ok s) : p.StandIn q s := by
  cases limited : q.groupLimit with
  | none => exact (freeRows_standIn limited compiled).1.1
  | some g =>
    simp only [rows, limited] at compiled
    exact (limitedGroups_standIn compiled).1.1

theorem rows_of_assemble (compiled : t.assemble q p = .ok s) :
    ∃ aggregate rows, (q.aggregate = none ∨ aggregatesDerived q → aggregate = none) ∧
      t.rows { q with aggregate } p = .ok rows ∧ StandsIn rows.text s.text := by
  unfold assemble at compiled
  split at compiled
  · obtain ⟨rows, found, rfl⟩ := ok_of_map compiled
    exact ⟨none, rows, fun _ => rfl, found, Sql.standsIn_inside _ rows _ (.inr (.inl rfl))⟩
  · rename_i direct
    exact ⟨q.aggregate, s, fun listed => listed.resolve_right direct, compiled, .refl _⟩

end

end Target

end SqlCompiler
