import SqlCompiler.Proofs.Paging.OwnSelects
import SqlCompiler.Proofs.Paging.RowNumbers
import SqlCompiler.Proofs.Retention.Unions

namespace SqlCompiler

theorem Union.led {t : Target} {u : Union} {s : Sql} (compiled : u.sql t = .ok s) : LedBy "UNION" s.text := by
  obtain ⟨rows, -, rfl⟩ := ok_of_map compiled
  refine LedBy.sql_append (ledBy_ofText ?_) _
  unfold keyword
  split
  · exact ⟨' ', "ALL ".toList, rfl, rfl⟩
  · exact ⟨' ', [], rfl, rfl⟩

namespace Target

variable {t : Target} {q : Query} {c : Components}

def unionClauses (t : Target) (q : Query) (own : Sql) (members : List Sql) : List String :=
  (t.unionMember own).text :: (members.map Sql.text ++ t.unionEnd q)

def limitedClauses (t : Target) (q : Query) (g : GroupLimit) (own : Sql) : List String :=
  let row := t.dialect.quoteName "group_row"
  let table := t.dialect.quoteName "group_table"
  if t.numbersRows then
    ["SELECT *", "FROM (" ++ own.text ++ ") AS " ++ table, "WHERE " ++ t.rowFilter g q.offset, "ORDER BY " ++ row]
  else
    let key := t.dialect.quoteName (Text.lastPart '.' g.column)
    ["SELECT " ++ table ++ ".*, @group_row := IF(@group_key = " ++ key ++ ", @group_row + 1, 1) AS " ++ row ++
        ", @group_key := " ++ key,
      "FROM (SELECT @group_row := 0, @group_key := 0) AS " ++ t.dialect.quoteName "group_variables" ++ ", (" ++
        own.text ++ ") AS " ++ table,
      "HAVING " ++ t.rowFilter g q.offset, "ORDER BY " ++ row]

/-- The SELECT of a query itself, which numbers the rows of groups where they are limited. -/
def ownSelect (t : Target) (q : Query) (c : Components) : Components :=
  match q.groupLimit with
  | some g =>
    if t.numbersRows then { c with columns := c.columns ++ t.rowNumber g.column c.orders, orders := .empty } else c
  | none => c

def rowClauses (t : Target) (q : Query) (c : Components) (members : List Sql) : List String :=
  match q.groupLimit with
  | some g => t.limitedClauses q g (t.ownSelect q c).sql
  | none => if q.unions.isEmpty then (t.ownSelect q c).clauses else t.unionClauses q (t.ownSelect q c).sql members

def wholeClauses (t : Target) (q : Query) (c : Components) (members : List Sql) : List String :=
  if aggregatesDerived q then (t.overRows q (t.rowsOf q c members)).clauses else t.rowClauses q c members

theorem rowsOf_limited_text {g : GroupLimit} (limited : q.groupLimit = some g) (c : Components) (members : List Sql) :
    (t.rowsOf q c members).text = " ".intercalate (t.limitedClauses q g (t.ownSelect q c).sql) := by
  have range := t.rowRange_eq_rowFilter g q.offset
  cases numbered : t.numbersRows with
  | true =>
    simp only [rowsOf, ownSelect, limitedClauses, limited, numbered, if_true, range, Sql.text_append, Sql.text_ofText]
    rw [← String.toList_inj]
    simp
  | false =>
    simp only [rowsOf, ownSelect, limitedClauses, limited, numbered, if_neg Bool.false_ne_true, range, Sql.text_append,
      Sql.text_ofText]
    rw [← String.toList_inj]
    simp

theorem union_text (own : Sql) {members : List Sql} (some : members ≠ []) :
    (t.unionMember own ++ " " ++ t.unionTail q members : Sql).text =
      " ".intercalate (t.unionClauses q own members) := by
  have tail : (t.unionTail q members).text = " ".intercalate (members.map Sql.text ++ t.unionEnd q) := by
    unfold unionTail unionEnd
    rw [Sql.text_join]
    split <;> simp [Function.comp_def]
  obtain ⟨first, rest, rfl⟩ := List.exists_cons_of_ne_nil some
  rw [Sql.text_append, Sql.text_append, Sql.text_ofText, tail, unionClauses, List.map_cons, List.cons_append,
    String.intercalate_cons_cons]

theorem limitedClauses_quiet (g : GroupLimit) (own : Sql) : ∀ clause ∈ t.limitedClauses q g own, Quiet clause := by
  have body {word s : String} (led : LedBy word s) (known : word ∈ bodyWords) : Quiet s :=
    (LedIn.of_led led known).silent.1
  have selected : LedBy "SELECT" "SELECT " := ⟨' ', [], rfl, rfl⟩
  have select (rest : String) : Quiet ("SELECT " ++ rest) :=
    (LedIn.of_led (selected.append rest) (by decide)).select_quiet
  have source : LedBy "FROM" "FROM (" := ⟨' ', ['('], rfl, rfl⟩
  have counters : LedBy "FROM" "FROM (SELECT @group_row := 0, @group_key := 0) AS " := ⟨' ', _, rfl, rfl⟩
  have tested : LedBy "WHERE" "WHERE " := ⟨' ', [], rfl, rfl⟩
  have filtered : LedBy "HAVING" "HAVING " := ⟨' ', [], rfl, rfl⟩
  have ordered : LedBy "ORDER" "ORDER BY " := ⟨' ', "BY ".toList, rfl, rfl⟩
  unfold limitedClauses
  split
  · simp only [List.forall_mem_cons]
    exact ⟨by decide, body (((source.append _).append _).append _) (by decide), body (tested.append _) (by decide),
      body (ordered.append _) (by decide), nofun⟩
  · simp only [List.forall_mem_cons, String.append_assoc]
    exact ⟨select _, body (counters.append _) (by decide), body (filtered.append _) (by decide),
      body (ordered.append _) (by decide), nofun⟩

theorem unionMember_silent (own : Sql) : Silent (t.unionMember own).text := by
  have parenthesis (rest : Sql) : Marked (Sql.ofText "(" ++ rest).text :=
    ⟨'(', rest.text.toList, by simp, by decide, by decide⟩
  have select (rest : Sql) : Silent (Sql.ofText "SELECT * FROM (" ++ rest).text := by
    have led : LedBy "SELECT" (Sql.ofText "SELECT * FROM (" ++ rest).text :=
      ⟨' ', "* FROM (".toList ++ rest.text.toList, by simp, rfl⟩
    have chars : (Sql.ofText "SELECT * FROM (" ++ rest).text =
        String.ofList ("SELECT".toList ++ ' ' :: '*' :: (" FROM (".toList ++ rest.text.toList)) := by
      rw [← String.toList_inj]
      simp
    refine ⟨(LedIn.of_led led (by decide)).select_quiet, ?_⟩
    rw [chars, topOf?_select]
    exact (untopped_apart (by decide) (by decide) _).listTop?_eq.1
  unfold unionMember
  split
  · rw [Sql.append_assoc]
    exact (parenthesis _).silent
  · rw [Sql.append_assoc]
    exact (parenthesis _).silent
  · rw [Sql.append_assoc]
    exact select _
  · rw [Sql.append_assoc, Sql.append_assoc]
    exact select _

theorem members_silent {unions : List Union} {members : List Sql} (compiled : unionSqls t unions = .ok members)
    (own : Sql) : ∀ clause ∈ (t.unionMember own).text :: members.map Sql.text, Silent clause := by
  refine List.forall_mem_cons.mpr ⟨t.unionMember_silent own, List.forall_mem_map.mpr fun member inMembers => ?_⟩
  obtain ⟨u, -, written⟩ := exists_of_forall₂ (unionSqls_ok compiled).flip inMembers
  exact silent_of_lead ((Union.led written).lead_eq (by decide)) (by decide) (by decide)

theorem unionOrder_silent (t : Target) (orders : List Order) :
    ∀ clause ∈ if orders.isEmpty then [] else [(t.orderBy orders).text], Silent clause := by
  split
  · nofun
  · simpa using (t.orderBy_led orders).silent

theorem unionEnd_cases (server : t.dialect = .sqlServer) :
    (∃ order, IsOrder q.orderFragments order ∧
      t.unionEnd q = order :: offsetAndFetch q.unionLimit (q.unionOffset.getD 0)) ∨
    q.unionLimit = none ∧ ∀ clause ∈ t.unionEnd q, Silent clause := by
  simp only [unionEnd, unionPaging, server]
  by_cases whole : q.unionLimit.isNone ∧ q.unionOffset.isNone
  · rw [if_pos whole, List.append_nil]
    exact .inr ⟨Option.isNone_iff_eq_none.mp whole.1, t.unionOrder_silent q.unionOrders⟩
  · rw [if_neg whole]
    refine .inl ?_
    by_cases unordered : q.unionOrders.isEmpty
    · exact ⟨anyOrder, anyOrder_isOrder _, by simp [unordered]⟩
    · have some : q.unionOrders ≠ [] := by simpa using unordered
      refine ⟨(t.orderBy q.unionOrders).text, (orderBy_isOrder some).mono ?_, by simp [unordered]⟩
      rw [Query.orderFragments, List.filterMap_append]
      exact List.subset_append_right _ _

section

variable {members : List Sql} (compiled : unionSqls t q.unions = .ok members) (own : Sql)

include compiled

theorem union_pages : t.dialect.Pages q.orderFragments (t.unionClauses q own members) := by
  have silent := members_silent compiled own
  rw [unionClauses, ← List.cons_append]
  by_cases server : t.dialect = .sqlServer
  · rcases unionEnd_cases server (q := q) with ⟨order, isOrder, ends⟩ | ⟨-, ends⟩
    · rw [ends, server]
      exact Dialect.pages_skipped silent isOrder _ _
    · have all := List.forall_mem_append.mpr ⟨silent, ends⟩
      exact Dialect.pages_of_quiet fun clause member => (all clause member).1
  · have paging : t.unionPaging q = t.limitAndOffset q.unionLimit q.unionOffset := by
      cases dialect : t.dialect <;> simp_all [unionPaging]
    have ends : t.unionEnd q = (if q.unionOrders.isEmpty then [] else [(t.orderBy q.unionOrders).text]) ++
        t.limitAndOffset q.unionLimit q.unionOffset ++ [] := by
      rw [unionEnd, paging, List.append_nil]
    have front := List.forall_mem_append.mpr ⟨silent, t.unionOrder_silent q.unionOrders⟩
    have nothing : ∀ clause ∈ ([] : List String), Quiet clause := List.forall_mem_nil _
    rw [ends, ← List.append_assoc, ← List.append_assoc]
    exact Dialect.pages_limited server (fun clause member => (front clause member).1) nothing _ _

theorem union_writesLimit (server : t.dialect = .sqlServer) :
    WritesLimit q.unionLimit (some (q.unionOffset.getD 0)) (t.unionClauses q own members) := by
  have silent := members_silent compiled own
  rw [unionClauses, ← List.cons_append]
  rcases unionEnd_cases server (q := q) with ⟨order, isOrder, ends⟩ | ⟨unlimited, ends⟩
  · rw [ends]
    exact skipped_writesLimit silent isOrder _ _
  · have all := List.forall_mem_append.mpr ⟨silent, ends⟩
    rw [unlimited]
    exact ⟨untopped_of_silent all, filter_fetch_of_quiet fun clause member => (all clause member).1⟩

end

end Target

namespace Query

def rowQuery (q : Query) : Query := { q with aggregate := if Target.aggregatesDerived q then none else q.aggregate }

/-- The offset of the query's own SELECT; that of limited groups is a test of their row numbers. -/
def ownOffset (q : Query) : Option UInt64 := if q.groupLimit.isSome then none else q.offset

theorem rowQuery_core (t : Target) (q : Query) : q.rowQuery.core t =
    { q with
      aggregate := q.rowQuery.aggregate
      groupLimit := none
      offset := q.ownOffset
      orders := (q.core t).orders } := by
  unfold core ownOffset
  cases limited : q.groupLimit <;> simp [rowQuery, limited]

theorem rowQuery_parts (t : Target) (q : Query) : (q.rowQuery.core t).parts t = q.parts t := by
  rw [core_parts]
  rfl

theorem core_orderFragments (t : Target) (q : Query) : (q.rowQuery.core t).orderFragments = q.orderFragments := by
  have orders : (q.core t).orders.filterMap Order.fragment? = q.orders.filterMap Order.fragment? := by
    unfold core
    split
    next => rfl
    next => cases t.numbersRows <;> rfl
  rw [rowQuery_core, orderFragments, orderFragments, List.filterMap_append, List.filterMap_append, orders]

end Query

namespace Target

variable {t : Target} {q : Query} {c : Components} {members : List Sql}

theorem rowsOf_clauses (some : q.groupLimit = none → q.unions ≠ [] → members ≠ []) (c : Components) :
    (t.rowsOf q c members).text = " ".intercalate (t.rowClauses q c members) := by
  cases limited : q.groupLimit with
  | some g =>
    rw [rowsOf_limited_text limited]
    simp only [rowClauses, limited]
  | none =>
    simp only [rowsOf, rowClauses, ownSelect, limited]
    split
    next => exact c.text_eq
    next several => exact union_text c.sql (some limited (by simpa using several))

theorem ownSelect_standsIn (c : Components) (members : List Sql) :
    StandsIn (t.ownSelect q c).sql.text (t.rowsOf q c members).text := by
  cases limited : q.groupLimit with
  | none =>
    simp only [rowsOf, ownSelect, limited]
    split
    next => exact .refl _
    next =>
      rw [Sql.append_assoc]
      exact (unionMember_standsIn c.sql).trans (Sql.standsIn_left _ (Sql.breaks_ofText (.inl rfl) _))
  | some g =>
    simp only [rowsOf, ownSelect, limited]
    split
    · rw [Sql.append_assoc, Sql.append_assoc]
      exact Sql.standsIn_inside _ _ _ (.inr (.inl rfl))
    · rw [Sql.append_assoc, Sql.append_assoc]
      exact Sql.standsIn_inside _ _ _ (.inr (.inl rfl))

theorem ownSelect_paged (compiled : t.components (q.rowQuery.core t) (q.parts t) = .ok c)
    (nothing : q.FragmentsPageNothing) : (t.ownSelect q c).PagedFor t (q.rowQuery.core t) := by
  have core := q.rowQuery_core t
  have paged : c.PagedFor t (q.rowQuery.core t) :=
    components_paged (q.rowQuery_parts t ▸ compiled) (by rw [core]; exact nothing)
  unfold ownSelect
  split
  next g limited =>
    split
    · exact paged.numbered (by simp [core, Query.ownOffset, limited]) _ _
    · exact paged
  next => exact paged

theorem unionSqls_of_written (free : q.groupLimit = none) (several : q.unions ≠ [])
    (written : writtenMembers q (q.parts t) = .ok members) : unionSqls t q.unions = .ok members := by
  rwa [writtenMembers, if_neg (by simp [free, several])] at written

theorem rowClauses_pages (own : t.dialect.Pages q.orderFragments (t.ownSelect q c).clauses)
    (written : writtenMembers q (q.parts t) = .ok members) :
    t.dialect.Pages q.orderFragments (t.rowClauses q c members) := by
  unfold rowClauses
  split
  next g limited => exact Dialect.pages_of_quiet (limitedClauses_quiet g _)
  next free =>
    split
    next => exact own
    next several => exact union_pages (unionSqls_of_written free (by simpa using several) written) _

theorem overRows_pages (rows : Sql) : t.dialect.Pages q.orderFragments (t.overRows q rows).clauses := by
  have source : LedBy "FROM" (t.overRows q rows).source.text :=
    (((ledBy_ofText ⟨' ', ['('], rfl, rfl⟩).sql_append _).sql_append _).sql_append _
  have clauses : (t.overRows q rows).clauses = filledTexts [t.aggregate q, (t.overRows q rows).source] := by
    have nothing : Sql.empty.text = "" := rfl
    rw [Components.clauses_eq]
    simp [overRows, Components.head, filledTexts, nothing, List.filter_cons]
  apply Dialect.pages_of_quiet
  intro clause member
  rw [clauses] at member
  obtain ⟨part, inList, rfl⟩ := mem_filledTexts member
  rcases List.mem_pair.mp inList with rfl | rfl
  · exact (aggregate_led t q).select_quiet
  · exact (LedIn.of_led source (by decide)).silent.1

theorem rows_of_sql {s : Sql} (compiled : q.sql t = .ok s) : ∃ c members,
    t.components (q.rowQuery.core t) (q.parts t) = .ok c ∧ writtenMembers q (q.parts t) = .ok members ∧
      (t.rowsOf q c members).text = " ".intercalate (t.rowClauses q c members) ∧
      s.text = " ".intercalate (t.wholeClauses q c members) ∧ StandsIn (t.rowsOf q c members).text s.text := by
  have found : ∃ rows, t.rows q.rowQuery (q.parts t) = .ok rows ∧ StandsIn rows.text s.text ∧ s.text =
      if aggregatesDerived q then (t.overRows q rows).sql.text else rows.text := by
    rw [Query.sql_eq_assemble, assemble] at compiled
    unfold Query.rowQuery
    by_cases derived : aggregatesDerived q = true
    · rw [if_pos derived] at compiled
      obtain ⟨rows, found, rfl⟩ := ok_of_map compiled
      have aggregates : q.aggregate.isSome := by
        rw [aggregatesDerived, Bool.and_eq_true] at derived
        exact derived.1
      simp only [if_pos derived]
      exact ⟨rows, found, Sql.standsIn_inside _ rows _ (.inr (.inl rfl)), (overRows_text aggregates rows).symm⟩
    · rw [if_neg derived] at compiled
      simp only [if_neg derived]
      exact ⟨s, compiled, .refl _, rfl⟩
  obtain ⟨rows, found, inWhole, text⟩ := found
  rw [rows_eq] at found
  split at found
  · cases found
  · obtain ⟨c, components, found⟩ := ok_of_bind found
    obtain ⟨members, written, rfl⟩ := ok_of_map found
    have same : t.rowsOf q.rowQuery c members = t.rowsOf q c members := rfl
    rw [same] at inWhole text
    have some : q.groupLimit = none → q.unions ≠ [] → members ≠ [] := by
      rintro free several rfl
      exact several (List.forall₂_nil_right_iff.mp (unionSqls_ok (unionSqls_of_written free several written)))
    have clauses := rowsOf_clauses (t := t) some c
    refine ⟨c, members, components, written, clauses, ?_, inWhole⟩
    rw [text, wholeClauses]
    split
    · exact Components.text_eq _
    · exact clauses

end Target

namespace Query

/-- The SELECTs of every query that is written within a statement stand in its text, and each of them pages its rows in
the form of the dialect. SQL Server is told the limit of a query and that of its union once, as far as its rows are not
limited by groups: then the union is lost with its limit. -/
theorem selects_paged {t : Target} {q inner : Query} {s : Sql} (compiled : q.sql t = .ok s) (writes : q.Writes inner)
    (nothing : inner.FragmentsPageNothing) : ∃ c members rows,
    t.components (inner.rowQuery.core t) (inner.parts t) = .ok c ∧
    Target.writtenMembers inner (inner.parts t) = .ok members ∧
    inner.sql t = .ok rows ∧ rows.text = " ".intercalate (t.wholeClauses inner c members) ∧
    (∀ clauses ∈ [(t.ownSelect inner c).clauses, t.rowClauses inner c members, t.wholeClauses inner c members],
      StandsIn (" ".intercalate clauses) s.text ∧ t.dialect.Pages inner.orderFragments clauses) ∧
    (t.dialect = .sqlServer →
      (inner.rowQuery.aggregate = none → WritesLimit inner.limit inner.ownOffset (t.ownSelect inner c).clauses) ∧
      (inner.groupLimit = none → inner.unions ≠ [] →
        WritesLimit inner.unionLimit (some (inner.unionOffset.getD 0)) (t.rowClauses inner c members))) ∧
    (inner.groupLimit.isSome → inner.sql t = inner.withoutUnion.sql t) := by
  obtain ⟨rows, found, inStatement⟩ := writes.standsIn compiled
  obtain ⟨c, members, components, written, clauses, whole, inWhole⟩ := Target.rows_of_sql found
  have inRows := Target.ownSelect_standsIn (t := t) (q := inner) c members
  have paged := Target.ownSelect_paged components nothing
  have ownPages := core_orderFragments t inner ▸ paged.pages
  have rowPages := Target.rowClauses_pages ownPages written
  have wholePages : t.dialect.Pages inner.orderFragments (t.wholeClauses inner c members) := by
    unfold Target.wholeClauses
    split
    · exact Target.overRows_pages _
    · exact rowPages
  refine ⟨c, members, rows, components, written, found, whole, ?_, fun server => ⟨fun plain => ?_, ?_⟩,
    fun limited => sql_withoutUnion (.inl limited)⟩
  · rw [Components.text_eq] at inRows
    rw [clauses] at inRows inWhole
    rw [whole] at inWhole inStatement
    have inStatement' := inWhole.trans inStatement
    simp only [List.forall_mem_cons]
    exact ⟨⟨inRows.trans inStatement', ownPages⟩, ⟨inStatement', rowPages⟩, ⟨inStatement, wholePages⟩, nofun⟩
  · have core := rowQuery_core t inner
    have once := paged.writesLimit server (by rw [core]; exact plain)
    rwa [core] at once
  · intro free several
    have union : t.rowClauses inner c members = t.unionClauses inner (t.ownSelect inner c).sql members := by
      simp only [Target.rowClauses, free]
      rw [if_neg (by simpa using several)]
    rw [union]
    exact Target.union_writesLimit (Target.unionSqls_of_written free several written) _ server

def threeWorkers : Query where
  columns := [.raw "UPPER(name)" []]
  source := some (.table "staff")
  limit := some 10
  offset := some 5
  unions := [⟨{ source := some (.table "contractors"), limit := some 2 }, false⟩]
  unionLimit := some 3

theorem threeWorkers_paged : ∃ s own union, threeWorkers.sql { dialect := .sqlServer } = .ok s ∧
    StandsIn (" ".intercalate own) s.text ∧ StandsIn (" ".intercalate union) s.text ∧
    Dialect.sqlServer.Pages [] own ∧ Dialect.sqlServer.Pages [] union ∧
    own.filter (fun clause => lead clause = "FETCH") = ["FETCH NEXT 10 ROWS ONLY"] ∧
    union.filter (fun clause => lead clause = "FETCH") = ["FETCH NEXT 3 ROWS ONLY"] := by
  obtain ⟨s, compiled, -⟩ : ∃ s, threeWorkers.sql { dialect := .sqlServer } = .ok s ∧ true :=
    ok_of_any (fun _ => true) (by decide +kernel)
  have nothing : threeWorkers.FragmentsPageNothing := by
    intro sql member
    obtain rfl := List.mem_singleton.mp member
    decide
  obtain ⟨c, members, rows, -, -, -, -, each, limits, -⟩ := selects_paged compiled .refl nothing
  simp only [List.forall_mem_cons] at each
  obtain ⟨⟨ownStands, ownPages⟩, ⟨unionStands, unionPages⟩, -⟩ := each
  obtain ⟨own, union⟩ := limits rfl
  exact ⟨s, _, _, compiled, ownStands, unionStands, ownPages, unionPages, (own rfl).fetch,
    (union rfl (by simp [threeWorkers])).fetch⟩

def threeOfGroups : Query where
  source := some (.table "staff")
  groupLimit := some ⟨1, "department"⟩
  unions := [⟨{ source := some (.table "contractors") }, false⟩]
  unionLimit := some 3

/-- The limit of the union is lost with it. -/
theorem threeOfGroups_unlimited : ∃ s, threeOfGroups.sql { dialect := .sqlServer } = .ok s ∧
    ¬ StandsIn (fetchClause 3) s.text := by
  obtain ⟨s, compiled, absent⟩ : ∃ s, threeOfGroups.sql { dialect := .sqlServer } = .ok s ∧
      s.text.toList.all (· ≠ 'X') := ok_of_any _ (by decide +kernel)
  exact ⟨s, compiled, not_standsIn absent (by decide)⟩

end Query

end SqlCompiler
