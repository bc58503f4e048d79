import SqlCompiler.Proofs.Aggregates.Paging

namespace SqlCompiler

namespace Query

variable {q : Query} {page perPage : UInt64} {row : Nat}

/-- The limit and the offset of the rows that a query yields: those of its union, if it has one. -/
def paging (q : Query) : Option UInt64 × Option UInt64 :=
  if q.hasUnions then (q.unionLimit, q.unionOffset) else (q.limit, q.offset)

def Yields (q : Query) (row : Nat) : Prop :=
  (q.paging.2.getD 0).toNat ≤ row ∧ ∀ n ∈ q.paging.1, row < (q.paging.2.getD 0).toNat + n.toNat

theorem toNat_ofNat_of_le {n : Nat} (counted : n ≤ greatest) : (UInt64.ofNat n).toNat = n :=
  UInt64.toNat_ofNat_of_lt' (Nat.lt_of_le_of_lt counted (by decide))

theorem pageOffset_toNat (page perPage : UInt64) :
    (pageOffset page perPage).toNat = min ((page.toNat - 1) * perPage.toNat) greatest :=
  toNat_ofNat_of_le (Nat.min_le_right _ _)

theorem pageOffset_mono {page' perPage' : UInt64} (later : page ≤ page') (more : perPage ≤ perPage') :
    pageOffset page perPage ≤ pageOffset page' perPage' := by
  rw [UInt64.le_iff_toNat_le, pageOffset_toNat, pageOffset_toNat]
  have before : page.toNat - 1 ≤ page'.toNat - 1 := Nat.sub_le_sub_right (UInt64.le_iff_toNat_le.mp later) 1
  have rows := Nat.mul_le_mul before (UInt64.le_iff_toNat_le.mp more)
  omega

theorem forPage_of_unions (united : q.unions ≠ []) (page perPage : UInt64) : q.forPage page perPage =
    { q with unionLimit := some perPage, unionOffset := some (pageOffset page perPage) } := by
  simp [forPage, withOffset, withLimit, hasUnions, united]

theorem forPage_of_alone (alone : q.unions = []) (page perPage : UInt64) : q.forPage page perPage =
    { q with limit := some perPage, offset := some (pageOffset page perPage) } := by
  simp [forPage, withOffset, withLimit, hasUnions, alone]

theorem paging_forPage (q : Query) (page perPage : UInt64) :
    (q.forPage page perPage).paging = (some perPage, some (pageOffset page perPage)) := by
  by_cases alone : q.unions = []
  · simp [forPage_of_alone alone, paging, hasUnions, alone]
  · simp [forPage_of_unions alone, paging, hasUnions, alone]

theorem forPage_zero (q : Query) (perPage : UInt64) : q.forPage 0 perPage = q.forPage 1 perPage := rfl

theorem yields_forPage_iff (q : Query) (sized : 0 < perPage) (first : 1 ≤ page) (counted : row < greatest) :
    (q.forPage page perPage).Yields row ↔ page.toNat = row / perPage.toNat + 1 := by
  have size : 0 < perPage.toNat := UInt64.lt_iff_toNat_lt.mp sized
  have number : 1 ≤ page.toNat := UInt64.le_iff_toNat_le.mp first
  have divided := Nat.div_eq_iff (x := row) (y := page.toNat - 1) size
  rw [Yields, paging_forPage]
  simp only [Option.getD_some, Option.mem_def, Option.some.injEq, forall_eq', pageOffset_toNat]
  -- No row below the greatest number is behind an offset that is held there, so that the minimum is the product.
  generalize (page.toNat - 1) * perPage.toNat = before at divided
  omega

theorem exists_unique_page (q : Query) (sized : 0 < perPage) (counted : row < greatest) :
    ∃! page : UInt64, 1 ≤ page ∧ (q.forPage page perPage).Yields row := by
  have most : row / perPage.toNat + 1 ≤ greatest := by
    have less := Nat.div_le_self row perPage.toNat
    omega
  have number := toNat_ofNat_of_le most
  have first : (1 : UInt64) ≤ UInt64.ofNat (row / perPage.toNat + 1) := by
    rw [UInt64.le_iff_toNat_le, number]
    exact Nat.le_add_left 1 _
  refine ⟨_, ⟨first, (yields_forPage_iff q sized first counted).mpr number⟩, fun page ⟨first', yields⟩ => ?_⟩
  rw [← UInt64.toNat_inj, number]
  exact (yields_forPage_iff q sized first' counted).mp yields

section

variable {rows : List Row}

/-- As long as 64 bits count the rows, an offset that is held at the greatest number skips all that it should. -/
theorem page_forPage (q : Query) (page perPage : UInt64) (counted : rows.length ≤ greatest) :
    Query.page (q.forPage page perPage).paging rows =
      (rows.drop ((page.toNat - 1) * perPage.toNat)).take perPage.toNat := by
  have skipped : rows.drop (min ((page.toNat - 1) * perPage.toNat) greatest) =
      rows.drop ((page.toNat - 1) * perPage.toNat) := by
    rcases Nat.le_total ((page.toNat - 1) * perPage.toNat) greatest with within | beyond
    · rw [Nat.min_eq_left within]
    · have past := Nat.le_trans counted beyond
      rw [Nat.min_eq_right beyond, List.drop_eq_nil_of_le counted, List.drop_eq_nil_of_le past]
  rw [paging_forPage]
  simp only [Query.page, Option.getD_some, Option.elim_some, pageOffset_toNat, skipped]

theorem pages_join (q : Query) (perPage : UInt64) (counted : rows.length ≤ greatest) {n : Nat}
    (pages : n ≤ greatest) :
    ((List.range n).flatMap fun k => Query.page (q.forPage (UInt64.ofNat (k + 1)) perPage).paging rows) =
      rows.take (n * perPage.toNat) := by
  induction n with
  | zero => simp
  | succ n ih =>
    have last : Query.page (q.forPage (UInt64.ofNat (n + 1)) perPage).paging rows =
        (rows.drop (n * perPage.toNat)).take perPage.toNat := by
      rw [page_forPage q _ _ counted, toNat_ofNat_of_le pages, Nat.add_sub_cancel]
    rw [List.range_succ, List.flatMap_append, ih (Nat.le_of_succ_le pages), List.flatMap_singleton, last,
      Nat.succ_mul, List.take_add]

end

/-- The pages of a query part its rows: each row that 64 bits count is on exactly one page, and pages one behind the
other are the rows. Page zero is page one, and no offset wraps around. A query with members of a union has the pages of
the union. -/
theorem pages_partition (q : Query) (perPage : UInt64) :
    (0 < perPage → ∀ row < greatest, ∃! page : UInt64, 1 ≤ page ∧ (q.forPage page perPage).Yields row) ∧
    (∀ rows : List Row, rows.length ≤ greatest → ∀ n ≤ greatest,
      ((List.range n).flatMap fun k => Query.page (q.forPage (UInt64.ofNat (k + 1)) perPage).paging rows) =
        rows.take (n * perPage.toNat)) ∧
    q.forPage 0 perPage = q.forPage 1 perPage ∧
    (∀ page, (pageOffset page perPage).toNat = min ((page.toNat - 1) * perPage.toNat) greatest) ∧
    (∀ page page' perPage', page ≤ page' → perPage ≤ perPage' →
      pageOffset page perPage ≤ pageOffset page' perPage') ∧
    (q.unions = [] → ∀ page, q.forPage page perPage =
      { q with limit := some perPage, offset := some (pageOffset page perPage) }) ∧
    (q.unions ≠ [] → ∀ page, q.forPage page perPage =
      { q with unionLimit := some perPage, unionOffset := some (pageOffset page perPage) }) :=
  ⟨fun sized _ counted => exists_unique_page q sized counted,
    fun _ counted _ pages => pages_join q perPage counted pages, forPage_zero q perPage,
    fun page => pageOffset_toNat page perPage, fun _ _ _ later more => pageOffset_mono later more,
    fun alone page => forPage_of_alone alone page perPage, fun united page => forPage_of_unions united page perPage⟩

/-- The last row that is on a page is on the second of two pages, the end of which 64 bits do not hold. The pages behind
it begin at the greatest number, and the query keeps the offset that is its own. -/
theorem newcomers_paged :
    (∃! page : UInt64, 1 ≤ page ∧ (newcomers.forPage page 0x8000000000000001).Yields (greatest - 1)) ∧
    newcomers.forPage 2 0x8000000000000001 =
      { newcomers with unionLimit := some 0x8000000000000001, unionOffset := some 0x8000000000000001 } ∧
    newcomers.forPage 3 0x8000000000000001 = newcomers.forPage 4 0x8000000000000001 ∧
    pastFive.forPage 3 2 = { pastFive with limit := some 2, offset := some 4 } ∧
    ((List.range 2).flatMap fun k => Query.page (pastFive.forPage (UInt64.ofNat (k + 1)) 2).paging
      [counted 1, counted 2, counted 3]) = [counted 1, counted 2, counted 3] := by
  obtain ⟨unique, -, -, -, -, -, united⟩ := pages_partition newcomers 0x8000000000000001
  obtain ⟨-, join, -, -, -, alone, -⟩ := pages_partition pastFive 2
  have members : newcomers.unions ≠ [] := List.cons_ne_nil _ _
  have second : pageOffset 2 0x8000000000000001 = 0x8000000000000001 := by decide +kernel
  have held : pageOffset 3 0x8000000000000001 = pageOffset 4 0x8000000000000001 := by decide +kernel
  refine ⟨unique (by decide +kernel) (greatest - 1) (Nat.sub_lt (by decide) Nat.one_pos), ?_, ?_, ?_, ?_⟩
  · rw [united members, second]
  · rw [united members, united members, held]
  · exact alone rfl 3
  · exact join [counted 1, counted 2, counted 3] (by decide) 2 (by decide)

end Query

end SqlCompiler
