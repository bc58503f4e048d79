import SqlCompiler.Proofs.Aggregates.Paging
import SqlCompiler.Proofs.Paging.Components

namespace SqlCompiler

theorem topOf?_empty : topOf? "" = none := by decide

/-- The texts of the parts that write something. -/
def filledTexts (parts : List Sql) : List String := (parts.map Sql.text).filter fun s => !(s == "")

theorem filterMap_filledTexts (parts : List Sql) :
    (filledTexts parts).filterMap topOf? = parts.filterMap fun part => topOf? part.text := by
  induction parts with
  | nil => rfl
  | cons part parts ih =>
    rw [filledTexts] at ih ⊢
    by_cases nothing : part.text = ""
    · simp [nothing, topOf?_empty, ih]
    · simp [nothing, List.filterMap_cons, ih]

theorem filledTexts_append (front back : List Sql) :
    filledTexts (front ++ back) = filledTexts front ++ filledTexts back := by
  rw [filledTexts, List.map_append, List.filter_append]
  rfl

theorem mem_filledTexts {parts : List Sql} {s : String} (member : s ∈ filledTexts parts) :
    ∃ part ∈ parts, part.text = s :=
  List.mem_map.mp (List.mem_of_mem_filter member)

theorem filledTexts_words {words : List String} (filled : ∀ word ∈ words, word ≠ "") :
    filledTexts (words.map Sql.ofText) = words := by
  have texts : (words.map Sql.ofText).map Sql.text = words := by simp [Function.comp_def]
  rw [filledTexts, texts]
  exact List.filter_eq_self.mpr fun word member => by simpa using filled word member

namespace Components

def head (c : Components) : List Sql :=
  [c.aggregate, c.columns, c.source, c.indexHint, c.joins, c.wheres, c.groups, c.havings]

theorem clauses_eq (c : Components) : c.clauses =
    filledTexts c.head ++ filledTexts [c.orders] ++ filledTexts c.paging ++ filledTexts [c.lock] := by
  have whole : c.clauses = filledTexts (c.named.map Prod.snd) := by
    rw [clauses, written, filledTexts, List.map_map, List.filter_map]
    rfl
  have parts : c.named.map Prod.snd = c.head ++ [c.orders] ++ c.paging ++ [c.lock] := by
    simp [named, head, Function.comp_def]
  rw [whole, parts, filledTexts_append, filledTexts_append, filledTexts_append]

end Components

/-- The limit of a SELECT of SQL Server is written once, in the form that its offset asks for. -/
structure WritesLimit (limit offset : Option UInt64) (clauses : List String) : Prop where
  top : clauses.filterMap topOf? = if offset = none then (limit.map fun n => toString n.toNat).toList else []
  fetch : clauses.filter (fun clause => lead clause = "FETCH") =
    if offset = none then [] else (limit.map fetchClause).toList

theorem filter_fetch_of_quiet {clauses : List String} (quiet : ∀ clause ∈ clauses, Quiet clause) :
    clauses.filter (fun clause => lead clause = "FETCH") = [] :=
  List.filter_eq_nil_iff.mpr fun clause member => by simpa using (Dialect.quiet_facts quiet).2 clause member

theorem skipped_writesLimit {fragments front : List String} (silent : ∀ clause ∈ front, Silent clause) {order : String}
    (isOrder : IsOrder fragments order) (limit : Option UInt64) (offset : UInt64) :
    WritesLimit limit (some offset) (front ++ order :: Target.offsetAndFetch limit offset) := by
  refine ⟨Dialect.skipping_untopped silent isOrder limit offset, ?_⟩
  rw [List.filter_append, filter_fetch_of_quiet fun clause member => (silent clause member).1, offsetAndFetch_eq]
  cases limit <;> simp [isOrder.lead_eq, lead_skipClause, lead_fetchClause]

theorem filledTexts_quiet {part : Sql} (quiet : Quiet part.text) : ∀ clause ∈ filledTexts [part], Quiet clause := by
  intro clause member
  obtain ⟨found, inList, rfl⟩ := mem_filledTexts member
  rwa [List.mem_singleton.mp inList]

def Lock.fragment? : Lock → Option String
  | .raw sql => some sql
  | _ => none

namespace Query

def orderFragments (q : Query) : List String := (q.orders ++ q.unionOrders).filterMap Order.fragment?

def FragmentsPageNothing (q : Query) : Prop :=
  ∀ sql ∈ q.columns.filterMap Selection.fragment? ++ (q.lock.bind Lock.fragment?).toList, PagesNothing sql.toList

end Query

/-- The components of a SELECT have the paging of the query, and no other. -/
structure Components.PagedFor (t : Target) (q : Query) (c : Components) : Prop where
  list : ∀ tail, Listed tail → Quiet (c.columns.text ++ tail) ∧
    (t.dialect = .sqlServer → topOf? (c.columns.text ++ tail) =
      if q.aggregate = none ∧ q.offset = none then q.limit.map fun n => toString n.toNat else none)
  others : ∀ part ∈ [c.aggregate, c.source, c.indexHint, c.joins, c.wheres, c.groups, c.havings], Silent part.text
  orders : Silent c.orders.text
  ordered : t.dialect = .sqlServer → q.offset.isSome → IsOrder q.orderFragments c.orders.text
  paging : c.paging = (t.queryPaging q).map Sql.ofText
  lock : Quiet c.lock.text ∧ (t.dialect = .sqlServer → c.lock.text = "")

theorem IsOrder.mono {fragments more : List String} {clause : String} (order : IsOrder fragments clause)
    (subset : fragments ⊆ more) : IsOrder more clause := by
  obtain ⟨items, some, text, blank⟩ := order
  exact ⟨items, some, text, fun member => subset (blank member)⟩

namespace Target

variable {t : Target} {q : Query} {c : Components}

theorem lockClause_quiet {lock : Lock} (nothing : ∀ sql, lock.fragment? = some sql → PagesNothing sql.toList) :
    Quiet (t.lockClause lock) ∧ (t.dialect = .sqlServer → t.lockClause lock = "") := by
  have empty : Quiet "" := by decide
  cases lock with
  | raw sql =>
    have quiet : Quiet sql := (nothing sql rfl).leading.1
    cases dialect : t.dialect <;> simp [lockClause, dialect, quiet, empty]
  | update =>
    have quiet : Quiet "FOR UPDATE" := by decide
    cases dialect : t.dialect <;> simp [lockClause, dialect, quiet, empty]
  | shared =>
    have quiet : Quiet "FOR SHARE" ∧ Quiet "LOCK IN SHARE MODE" := by decide
    cases dialect : t.dialect <;> simp [lockClause, dialect, quiet, empty]

theorem selectList_listed (nothing : q.FragmentsPageNothing) {list : Sql}
    (compiled : t.selectList q (q.parts t) = .ok list) {tail : String} (listed : Listed tail) :
    Quiet (list.text ++ tail) ∧ (t.dialect = .sqlServer → topOf? (list.text ++ tail) =
      if q.aggregate = none ∧ q.offset = none then q.limit.map fun n => toString n.toNat else none) := by
  cases aggregate : q.aggregate with
  | some a =>
    rw [selectList, if_pos (by simp [aggregate])] at compiled
    cases compiled
    have same : Sql.empty.text ++ tail = tail := String.empty_append
    rw [same, if_neg (by simp)]
    exact ⟨listed.silent.1, fun _ => listed.silent.2⟩
  | none =>
    refine ⟨?_, fun server => ?_⟩
    · rcases selectList_led compiled tail with ⟨-, aggregates⟩ | led
      · simp [aggregate] at aggregates
      · exact (LedIn.of_led led (by decide)).select_quiet
    · have list := fun sql member => nothing sql (List.mem_append_left _ member)
      rw [selectList_top server aggregate list compiled listed]
      simp

theorem components_paged (compiled : t.components q (q.parts t) = .ok c) (nothing : q.FragmentsPageNothing) :
    c.PagedFor t q := by
  obtain ⟨list, listed, compiled⟩ := ok_of_bind compiled
  obtain ⟨source, sourced, compiled⟩ := ok_of_bind compiled
  obtain ⟨joins, joined, compiled⟩ := ok_of_bind compiled
  obtain ⟨wheres, tested, compiled⟩ := ok_of_bind compiled
  obtain ⟨havings, filtered, rfl⟩ := ok_of_map compiled
  refine ⟨fun tail => selectList_listed nothing listed, ?_, (queryOrder_led t q).silent,
    fun server skips => ?_, rfl, ?_⟩
  · have hint : LedIn bodyWords (Sql.ofText ((q.indexHint.map t.indexHint).getD "")).text := by
      rw [Sql.text_ofText]
      cases q.indexHint with
      | none => exact .inl rfl
      | some hint => exact indexHint_led hint
    simp only [List.forall_mem_cons]
    exact ⟨⟨(aggregate_led t q).select_quiet, aggregate_untopped t q⟩, (sourceClause_led sourced).silent, hint.silent,
      (joins_led joined).silent, (clauseAfter_led (by decide) tested).silent, (groupBy_led q.groups).silent,
      (clauseAfter_led (by decide) filtered).silent, nofun⟩
  · refine (queryOrder_isOrder server skips).mono ?_
    rw [Query.orderFragments, List.filterMap_append]
    exact List.subset_append_left _ _
  · rw [Sql.text_ofText]
    cases found : q.lock with
    | none =>
      have empty : Quiet "" := by decide
      exact ⟨empty, fun _ => rfl⟩
    | some lock =>
      exact lockClause_quiet fun sql raw => nothing sql (List.mem_append_right _ (by simp [found, raw]))

theorem rowNumber_listed (t : Target) (column : String) (orders : Sql) : Listed (t.rowNumber column orders).text := by
  have comma (s : String) : Listed (", ROW_NUMBER() OVER (" ++ s) :=
    .inr ⟨" ROW_NUMBER() OVER (" ++ s, by rw [← String.append_assoc]; rfl⟩
  unfold rowNumber
  simp only [Sql.text_append, Sql.text_ofText, String.append_assoc]
  exact comma _

theorem queryPaging_filled (t : Target) (q : Query) : ∀ word ∈ t.queryPaging q, word ≠ "" := by
  cases dialect : t.dialect <;> cases offset : q.offset <;> cases limit : q.limit <;>
    simp [queryPaging, limitAndOffset, offsetAndFetch, unlimited, limitWord, offsetWord, dialect, offset, limit]

end Target

namespace Components.PagedFor

variable {t : Target} {q : Query} {c : Components}

theorem clauses_eq (paged : c.PagedFor t q) :
    c.clauses = filledTexts c.head ++ filledTexts [c.orders] ++ t.queryPaging q ++ filledTexts [c.lock] := by
  rw [Components.clauses_eq, paged.paging, filledTexts_words (t.queryPaging_filled q)]

theorem columns (paged : c.PagedFor t q) : Quiet c.columns.text ∧ (t.dialect = .sqlServer → topOf? c.columns.text =
    if q.aggregate = none ∧ q.offset = none then q.limit.map fun n => toString n.toNat else none) := by
  have whole := paged.list "" (.inl rfl)
  rwa [String.append_empty] at whole

theorem head_all (paged : c.PagedFor t q) {p : String → Prop} (columns : p c.columns.text)
    (others : ∀ s, Silent s → p s) : ∀ clause ∈ filledTexts c.head, p clause := by
  intro clause member
  obtain ⟨part, inHead, rfl⟩ := mem_filledTexts member
  rcases List.mem_cons.mp inHead with rfl | later
  · exact others _ (paged.others c.aggregate List.mem_cons_self)
  rcases List.mem_cons.mp later with rfl | rest
  · exact columns
  · exact others _ (paged.others part (List.mem_cons_of_mem _ rest))

theorem front_quiet (paged : c.PagedFor t q) :
    ∀ clause ∈ filledTexts c.head ++ filledTexts [c.orders], Quiet clause :=
  List.forall_mem_append.mpr
    ⟨paged.head_all paged.columns.1 fun _ silent => silent.1, filledTexts_quiet paged.orders.1⟩

theorem head_silent (paged : c.PagedFor t q) (server : t.dialect = .sqlServer) (skips : q.offset.isSome) :
    ∀ clause ∈ filledTexts c.head, Silent clause := by
  have untopped := paged.columns.2 server
  rw [if_neg fun unskipped => by simp [unskipped.2] at skips] at untopped
  exact paged.head_all ⟨paged.columns.1, untopped⟩ fun _ silent => silent

theorem head_tops (paged : c.PagedFor t q) (server : t.dialect = .sqlServer) (plain : q.aggregate = none)
    (unskipped : q.offset = none) :
    (filledTexts c.head).filterMap topOf? = (q.limit.map fun n => toString n.toNat).toList := by
  have columns := paged.columns.2 server
  rw [if_pos ⟨plain, unskipped⟩] at columns
  have others := paged.others
  simp only [List.forall_mem_cons] at others
  obtain ⟨⟨-, aggregate⟩, ⟨-, source⟩, ⟨-, hint⟩, ⟨-, joins⟩, ⟨-, wheres⟩, ⟨-, groups⟩, ⟨-, havings⟩, -⟩ := others
  rw [filterMap_filledTexts, ← columns]
  cases top : topOf? c.columns.text <;>
    simp [head, aggregate, source, hint, joins, wheres, groups, havings, top]

theorem clauses_skipping (paged : c.PagedFor t q) (server : t.dialect = .sqlServer) {m : UInt64}
    (skips : q.offset = some m) : IsOrder q.orderFragments c.orders.text ∧
      (∀ clause ∈ filledTexts c.head, Silent clause) ∧
      c.clauses = filledTexts c.head ++ c.orders.text :: Target.offsetAndFetch q.limit m := by
  have some : q.offset.isSome := by rw [skips]; rfl
  have isOrder := paged.ordered server some
  have filled : c.orders.text ≠ "" := fun nothing => absurd isOrder.lead_eq (by rw [nothing]; decide)
  have orders : filledTexts [c.orders] = [c.orders.text] := by simp [filledTexts, filled]
  have lock : filledTexts [c.lock] = [] := by simp [filledTexts, paged.lock.2 server]
  have paging : t.queryPaging q = Target.offsetAndFetch q.limit m := by simp only [Target.queryPaging, server, skips]
  refine ⟨isOrder, paged.head_silent server some, ?_⟩
  rw [paged.clauses_eq, orders, lock, paging, List.append_nil, List.append_assoc]
  rfl

theorem pages (paged : c.PagedFor t q) : t.dialect.Pages q.orderFragments c.clauses := by
  have lock := filledTexts_quiet paged.lock.1
  by_cases server : t.dialect = .sqlServer
  · cases offset : q.offset with
    | none =>
      have nothing : t.queryPaging q = [] := Target.queryPaging_eq_nil_iff.mpr ⟨offset, .inr server⟩
      rw [paged.clauses_eq, nothing, List.append_nil]
      exact Dialect.pages_of_quiet (List.forall_mem_append.mpr ⟨paged.front_quiet, lock⟩)
    | some m =>
      obtain ⟨isOrder, silent, clauses⟩ := paged.clauses_skipping server offset
      rw [clauses, server]
      exact Dialect.pages_skipped silent isOrder q.limit m
  · have paging : t.queryPaging q = t.limitAndOffset q.limit q.offset := by
      cases dialect : t.dialect <;> simp_all [Target.queryPaging]
    rw [paged.clauses_eq, paging]
    exact Dialect.pages_limited server paged.front_quiet lock q.limit q.offset

theorem writesLimit (paged : c.PagedFor t q) (server : t.dialect = .sqlServer) (plain : q.aggregate = none) :
    WritesLimit q.limit q.offset c.clauses := by
  cases offset : q.offset with
  | none =>
    have nothing : t.queryPaging q = [] := Target.queryPaging_eq_nil_iff.mpr ⟨offset, .inr server⟩
    have lock : filledTexts [c.lock] = [] := by simp [filledTexts, paged.lock.2 server]
    have orders : (filledTexts [c.orders]).filterMap topOf? = [] := by
      simp [filterMap_filledTexts, paged.orders.2]
    rw [paged.clauses_eq, nothing, lock, List.append_nil, List.append_nil]
    refine ⟨?_, filter_fetch_of_quiet paged.front_quiet⟩
    rw [List.filterMap_append, orders, paged.head_tops server plain offset, if_pos rfl, List.append_nil]
  | some m =>
    obtain ⟨isOrder, silent, clauses⟩ := paged.clauses_skipping server offset
    rw [clauses]
    exact skipped_writesLimit silent isOrder q.limit m

theorem numbered (paged : c.PagedFor t q) (unskipped : q.offset = none) (column : String) (orders : Sql) :
    ({ c with columns := c.columns ++ t.rowNumber column orders, orders := .empty } : Components).PagedFor t q := by
  have unordered : Silent Sql.empty.text := by decide
  refine { paged with
    list := fun tail goesOn => ?_
    orders := unordered
    ordered := fun _ skips => by simp [unskipped] at skips }
  have longer := paged.list _ ((Target.rowNumber_listed t column orders).append goesOn)
  rwa [← String.append_assoc, ← Sql.text_append] at longer

end Components.PagedFor

end SqlCompiler
