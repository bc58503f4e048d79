import SqlCompiler.Proofs.Placement.PlainNames
import SqlCompiler.Proofs.Quoting.TextLiterals

namespace SqlCompiler

theorem inert_literal {d : Dialect} {body : List Char} (inside : ∀ c ∈ body, c ≠ '\x27' ∧ c ≠ '\\') :
    d.Inert (String.ofList ('\x27' :: body ++ ['\x27'])) := by
  have quotes : '\x27' ∉ body := fun member => (inside _ member).1 rfl
  have backslashes : '\\' ∉ body := fun member => (inside _ member).2 rfl
  exact (Spells.same quotes fun _ => backslashes).inert

theorem quoteText_inert {d : Dialect} (escapes : d.hasBackslashEscapes = false) (s : String) :
    d.Inert (quoteText s) := (Spells.double escapes s.toList).inert

theorem Dialect.closeQuote_not_plain (d : Dialect) : ¬ isPlain d.closeQuote := by cases d <;> decide

theorem quoteName_inert_of_absent {d : Dialect} {s : String} (absent : d.closeQuote ∉ s.toList) :
    d.Inert (d.quoteName s) := by
  unfold Dialect.quoteName
  split
  · rename_i star
    subst star
    exact Dialect.inert_chars rfl
  · rw [Text.double_eq_self absent]
    have stays : ∀ c ∈ s.toList, Quoting.next d .name c = .name := by
      intro c member
      have other : c ≠ d.closeQuote := fun same => absent (same ▸ member)
      simp [Quoting.next, other]
    exact inert_between (by cases d <;> rfl) (by cases d <;> decide) (scan_stays stays (by simp))
      (by cases d <;> rfl) (by decide)

theorem quoteName_inert {s : String} (plain : PlainText s) (d : Dialect) : d.Inert (d.quoteName s) :=
  quoteName_inert_of_absent fun member => d.closeQuote_not_plain (plain _ member)

theorem inert_intercalate {d : Dialect} {separator : String} {parts : List String} (between : d.Inert separator)
    (all : ∀ part ∈ parts, d.Inert part) : d.Inert (separator.intercalate parts) := by
  induction parts with
  | nil => exact d.inert_empty
  | cons part rest ih =>
    have first := all part (by simp)
    have later := ih fun other member => all other (List.mem_cons_of_mem _ member)
    cases rest with
    | nil => simpa using first
    | cons next rest =>
      rw [String.intercalate_cons_cons]
      exact Dialect.Inert.append (Dialect.Inert.append first between) later

theorem inert_join {d : Dialect} {parts : List String} (all : ∀ part ∈ parts, d.Inert part) :
    d.Inert (String.join parts) := by
  induction parts with
  | nil => exact d.inert_empty
  | cons part rest ih =>
    rw [String.join_cons]
    exact Dialect.Inert.append (all part (by simp)) (ih fun other member => all other (List.mem_cons_of_mem _ member))

theorem flatMap_escapeKey {key : List Char} (plain : ∀ c ∈ key, isPlain c) : key.flatMap escapeKey = key := by
  induction key with
  | nil => rfl
  | cons c cs ih =>
    have ⟨quote, double, _⟩ := isPlain_iff.mp (plain c (by simp))
    have first : escapeKey c = [c] := by simp [escapeKey, quote, double]
    simp [first, ih fun d member => plain d (List.mem_cons_of_mem _ member)]

theorem splitIndex_subset (step : List Char) : (splitIndex step).1 ⊆ step ∧ (splitIndex step).2 ⊆ step := by
  unfold splitIndex
  split
  · exact ⟨(List.takeWhile_sublist _).subset, (List.dropWhile_sublist _).subset⟩
  · exact ⟨List.Subset.refl _, List.nil_subset _⟩

theorem pathStep_of_plain {step : String} (plain : PlainText step) :
    ∀ c ∈ pathStep step, c = '\x22' ∨ isPlain c := by
  have parts := splitIndex_subset step.toList
  have key := flatMap_escapeKey fun c member => plain c (parts.1 member)
  intro c written
  simp only [pathStep, key] at written
  rcases List.mem_append.mp written with inKey | inIndex
  · split at inKey
    · cases inKey
    · simp only [List.cons_append, List.nil_append, List.mem_cons, List.mem_append, List.not_mem_nil,
        or_false] at inKey
      rcases inKey with rfl | rfl | member | rfl
      · exact Or.inr rfl
      · exact Or.inl rfl
      · exact Or.inr (plain c (parts.1 member))
      · exact Or.inl rfl
  · exact Or.inr (plain c (parts.2 inIndex))

theorem jsonPath_inert {path : List String} (plain : ∀ step ∈ path, PlainText step) (d : Dialect) :
    d.Inert (jsonPath path) := by
  have inside : ∀ c ∈ '$' :: path.flatMap pathStep, c ≠ '\x27' ∧ c ≠ '\\' := by
    intro c member
    rcases List.mem_cons.mp member with rfl | later
    · decide
    · obtain ⟨step, inPath, written⟩ := List.mem_flatMap.mp later
      rcases pathStep_of_plain (plain step inPath) c written with rfl | good
      · decide
      · have ⟨quote, _, _, backslash, _⟩ := isPlain_iff.mp good
        exact ⟨quote, backslash⟩
  exact inert_literal inside

theorem isPlain_of_decimal {c : Char} (digit : Decimal.isDigit c) : isPlain c := by
  rw [isPlain_iff]
  refine ⟨?_, ?_, ?_, ?_, ?_, ?_, ?_⟩ <;> (rintro rfl; revert digit; decide)

namespace Target

section

variable {t : Target} (plainPrefix : PlainText t.tablePrefix)
include plainPrefix

theorem plainTable_inert {name : String} (plain : PlainText name) : t.dialect.Inert (t.plainTable name) := by
  unfold plainTable
  split
  · rename_i schema table found
    have parts := Text.splitLast_subset found
    apply Dialect.Inert.append
    · apply Dialect.Inert.append
      · exact quoteName_inert (plain.of_subset parts.1) t.dialect
      · exact Dialect.inert_chars rfl
    · exact quoteName_inert (plainPrefix.append (plain.of_subset parts.2)) t.dialect
  · exact quoteName_inert (plainPrefix.append plain) t.dialect

theorem table_inert {name : String} (plain : PlainText name) : t.dialect.Inert (t.table name) := by
  unfold table
  split
  · rename_i found
    have parts := plain.splitAlias found
    apply Dialect.Inert.append
    · exact Dialect.Inert.append (plainTable_inert plainPrefix parts.1) (Dialect.inert_chars rfl)
    · exact quoteName_inert (plainPrefix.append parts.2) t.dialect
  · exact plainTable_inert plainPrefix plain

theorem dotted_inert {name : String} (plain : PlainText name) : t.dialect.Inert (t.dotted name) := by
  unfold dotted
  split
  · rename_i table column found
    have first : table ∈ Text.parts '.' name := by simp [found]
    have second : column ∈ Text.parts '.' name := by simp [found]
    apply Dialect.Inert.append
    · exact Dialect.Inert.append (table_inert plainPrefix (plain.parts first)) (Dialect.inert_chars rfl)
    · exact quoteName_inert (plain.parts second) t.dialect
  · apply inert_intercalate (Dialect.inert_chars rfl)
    intro part member
    obtain ⟨name, inParts, rfl⟩ := List.mem_map.mp member
    exact quoteName_inert (plain.parts inParts) t.dialect

omit plainPrefix in
theorem postgresStep_inert {d : Dialect} (escapes : d.hasBackslashEscapes = false) (step : String) :
    d.Inert (postgresStep step) := by
  unfold postgresStep
  split
  · rename_i digits
    have plain : PlainText step := fun c member =>
      isPlain_of_decimal (List.all_eq_true.mp digits.2 c member)
    exact plain.inert d
  · exact quoteText_inert escapes step

omit plainPrefix in
theorem postgresSteps_inert {d : Dialect} (escapes : d.hasBackslashEscapes = false) (path : List String) :
    d.Inert (postgresSteps path) := by
  fun_induction postgresSteps path with
  | case1 => exact d.inert_empty
  | case2 step => exact Dialect.Inert.append (Dialect.inert_chars rfl) (postgresStep_inert escapes step)
  | case3 step next rest ih =>
    apply Dialect.Inert.append
    · exact Dialect.Inert.append (Dialect.inert_chars rfl) (postgresStep_inert escapes step)
    · exact ih

theorem jsonColumn_inert {name : String} (plain : PlainText name) : t.dialect.Inert (t.jsonColumn name) := by
  rcases found : Text.fieldAndPath name with ⟨field, path⟩
  have parts := plain.fieldAndPath found
  have column := dotted_inert plainPrefix parts.1
  have literal := jsonPath_inert parts.2 t.dialect
  simp only [jsonColumn, found]
  split
  case h_4 postgres =>
    apply Dialect.Inert.append column
    exact postgresSteps_inert (by rw [postgres]; rfl) path
  all_goals
    with_reducible repeat' apply Dialect.Inert.append
    all_goals first
      | with_reducible assumption
      | exact Dialect.inert_chars rfl

theorem plainColumn_inert {name : String} (plain : PlainText name) : t.dialect.Inert (t.plainColumn name) := by
  unfold plainColumn
  split
  · exact jsonColumn_inert plainPrefix plain
  · exact dotted_inert plainPrefix plain

theorem column_inert {name : String} (plain : PlainText name) : t.dialect.Inert (t.column name) := by
  unfold column
  split
  · rename_i found
    have parts := plain.splitAlias found
    apply Dialect.Inert.append
    · exact Dialect.Inert.append (plainColumn_inert plainPrefix parts.1) (Dialect.inert_chars rfl)
    · exact quoteName_inert parts.2 t.dialect
  · exact plainColumn_inert plainPrefix plain

theorem columns_inert {names : List String} (plain : ∀ name ∈ names, PlainText name) :
    t.dialect.Inert (t.columns names) := by
  apply inert_intercalate (Dialect.inert_chars rfl)
  intro part member
  obtain ⟨name, inNames, rfl⟩ := List.mem_map.mp member
  exact column_inert plainPrefix (plain name inNames)

end

end Target

end SqlCompiler
