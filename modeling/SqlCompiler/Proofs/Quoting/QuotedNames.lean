import SqlCompiler.Proofs.Placement.WrittenNames

namespace SqlCompiler

theorem positionsFrom_add (d : Dialect) (q : Quoting) (size offset : Nat) (cs : List Char) :
    positionsFrom d q (size + offset) cs = (positionsFrom d q offset cs).map (size + ·) := by
  induction cs generalizing q offset with
  | nil => rfl
  | cons c cs ih =>
    simp only [positionsFrom, Nat.add_assoc, ih]
    split <;> rfl

namespace Dialect

/-- A text is inert exactly if, put in front of any other, it moves that one's placeholders by its own size. -/
theorem inert_iff_positions {d : Dialect} {s : String} :
    d.Inert s ↔ ∀ rest, d.positions (s ++ rest) = (d.positions rest).map (s.utf8ByteSize + ·) := by
  have whole (rest : String) : d.positions (s ++ rest) = d.positions s ++
      positionsFrom d (Quoting.after d .outside s.toList) s.utf8ByteSize rest.toList := by
    simp [positions, positionsFrom_append]
  constructor
  · intro inert rest
    have none : d.positions s = [] := inert.positions 0
    rw [whole, inert.closed, none, List.nil_append]
    exact positionsFrom_add d .outside s.utf8ByteSize 0 rest.toList
  · intro moves
    have none : d.positions s = [] := by
      have empty := moves ""
      simp only [String.append_empty] at empty
      exact empty
    refine ⟨?_, ?_⟩
    · -- A placeholder behind the text is found only from outside quotes.
      have mark := moves "?"
      rw [whole, none] at mark
      refine Decidable.byContradiction fun quoted => ?_
      simp [positions, positionsFrom, quoted] at mark
    · rw [placeholders, ← length_positionsFrom d .outside 0]
      exact congrArg List.length none

section

variable {d : Dialect} (same : d.openQuote = d.closeQuote)
include same

theorem scan_double_quote (cs : List Char) :
    Quoting.after d .name (Text.double d.closeQuote cs) = .name ∧
      placeholderCount d .name (Text.double d.closeQuote cs) = 0 := by
  have leaves : Quoting.next d .name d.closeQuote = .outside := by simp [Quoting.next]
  have enters : Quoting.next d .outside d.closeQuote = .name := by
    revert same
    cases d <;> decide
  have mark : d.closeQuote ≠ '?' := by cases d <;> decide
  induction cs with
  | nil => exact ⟨rfl, rfl⟩
  | cons c cs ih =>
    by_cases quote : c = d.closeQuote
    · subst quote
      simp [Text.double, placeholderCount, leaves, enters, mark, ih]
    · have stays : Quoting.next d .name c = .name := by simp [Quoting.next, quote]
      simp [Text.double, quote, placeholderCount, stays, ih]

theorem quoteName_inert_of_same (name : String) : d.Inert (d.quoteName name) := by
  unfold quoteName
  split
  · rename_i star
    subst star
    exact inert_chars rfl
  · exact inert_between (by cases d <;> rfl) (by cases d <;> decide) (scan_double_quote same name.toList)
      (by cases d <;> rfl) (by decide)

end

theorem scan_double_bracket (q : Quoting) (cs : List Char) :
    Quoting.after .sqlServer q (Text.double ']' cs) = Quoting.after .sqlServer q cs ∧
      placeholderCount .sqlServer q (Text.double ']' cs) = placeholderCount .sqlServer q cs := by
  induction cs generalizing q with
  | nil => exact ⟨rfl, rfl⟩
  | cons c cs ih =>
    by_cases bracket : c = ']'
    · subst bracket
      have again : Quoting.next .sqlServer (Quoting.next .sqlServer q ']') ']' = Quoting.next .sqlServer q ']' := by
        cases q <;> rfl
      simp [Text.double, placeholderCount, again, ih]
    · simp [Text.double, bracket, placeholderCount, ih]

theorem quoteName_inert_iff {name : String} {within behind : List Char}
    (cut : name.toList = within ++ ']' :: behind) (first : ']' ∉ within) :
    Inert .sqlServer (quoteName .sqlServer name) ↔ Inert .sqlServer (String.ofList (behind ++ [']'])) := by
  have named : name ≠ "*" := by
    rintro rfl
    have bracket : ']' ∈ "*".toList := by simp [cut]
    revert bracket
    decide
  have stays : ∀ c ∈ within, Quoting.next .sqlServer .name c = .name := by
    intro c member
    have other : c ≠ ']' := fun same => first (same ▸ member)
    simp [Quoting.next, closeQuote, other]
  have passed := scan_stays stays (by simp)
  have enters : Quoting.next .sqlServer .outside '[' = .name := rfl
  have leaves : Quoting.next .sqlServer .name ']' = .outside := rfl
  have closed : Quoting.after .sqlServer .outside (quoteName .sqlServer name).toList =
      Quoting.after .sqlServer .outside (behind ++ [']']) := by
    simp [quoteName, named, openQuote, closeQuote, Quoting.after_append, scan_double_bracket, cut, passed, enters,
      leaves]
  have count : placeholderCount .sqlServer .outside (quoteName .sqlServer name).toList =
      placeholderCount .sqlServer .outside (behind ++ [']']) := by
    simp [quoteName, named, openQuote, closeQuote, Quoting.after_append, placeholderCount_append, placeholderCount,
      scan_double_bracket, cut, passed, enters, leaves]
  constructor
  · rintro ⟨outside, none⟩
    exact inert_scan (closed ▸ outside) (count ▸ none)
  · rintro ⟨outside, none⟩
    rw [placeholders, String.toList_ofList] at none
    rw [String.toList_ofList] at outside
    exact ⟨closed.trans outside, count.trans none⟩

/-- In front of any text a quoted name moves the placeholders by its size, except that in SQL Server what a name has
behind its first closing bracket must itself be passed over. -/
theorem positions_quoteName_iff (d : Dialect) (name : String) :
    (∀ rest, d.positions (d.quoteName name ++ rest) =
        (d.positions rest).map ((d.quoteName name).utf8ByteSize + ·)) ↔
      (d = .sqlServer → ∀ within behind, name.toList = within ++ ']' :: behind → ']' ∉ within →
        d.Inert (String.ofList (behind ++ [']']))) := by
  rw [← inert_iff_positions]
  by_cases brackets : d = .sqlServer
  · subst brackets
    constructor
    · intro inert _ within behind cut first
      exact (quoteName_inert_iff cut first).mp inert
    · intro passes
      by_cases bracket : ']' ∈ name.toList
      · obtain ⟨within, behind, cut, first⟩ := List.eq_append_cons_of_mem bracket
        exact (quoteName_inert_iff cut first).mpr (passes rfl within behind cut first)
      · exact quoteName_inert_of_absent bracket
  · have same : d.openQuote = d.closeQuote := by
      revert brackets
      cases d <;> decide
    simp [brackets, quoteName_inert_of_same same name]

/-- A question mark in the name of a column is taken for a placeholder, and an apostrophe for the start of a literal. -/
theorem positions_quoteName_bracket :
    (¬ ∀ rest, positions .sqlServer (quoteName .sqlServer "paid]?" ++ rest) =
      (positions .sqlServer rest).map ((quoteName .sqlServer "paid]?").utf8ByteSize + ·)) ∧
    positions .sqlServer (quoteName .sqlServer "paid]?" ++ " = ?") = [7, 12] ∧
    positions .sqlServer (quoteName .sqlServer "the crew]'s" ++ " = ?") = [] := by
  have found : ¬ Inert .sqlServer (String.ofList ("?".toList ++ [']'])) := by
    intro inert
    have none := inert.count
    revert none
    decide
  refine ⟨?_, by decide, by decide⟩
  intro moves
  have passes := (positions_quoteName_iff .sqlServer "paid]?").mp moves rfl
  exact found (passes "paid".toList "?".toList rfl (by decide))

end Dialect

end SqlCompiler
