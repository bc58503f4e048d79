import SqlCompiler.Proofs.Conditions.Spans
import SqlCompiler.Proofs.Placement.WrittenNames

namespace SqlCompiler

namespace Text

def pathSteps (name : String) : List String :=
  (fieldAndPath name).2 ++
    match splitAlias name with
    | some (column, _) => (fieldAndPath column).2
    | none => []

end Text

/-- No step of a path closes the literal that the path is written in. Postgres writes a literal for every step. -/
def Target.Shelters (t : Target) (name : String) : Prop :=
  t.dialect = .postgres ∨ ∀ step ∈ Text.pathSteps name, t.dialect.KeepsOpen step

section

variable {d : Dialect} {alone : Bool}

theorem quoteName_spans (name : String) : d.Spans alone 0 (d.quoteName name) 0 := by
  unfold Dialect.quoteName
  split
  · rename_i star
    subst star
    exact .plain rfl
  · exact (quoted_double d name.toList).spans (closing?_openQuote d) (by simp)

theorem quoteText_spans (escapes : d.hasBackslashEscapes = false) (s : String) : d.Spans alone 0 (quoteText s) 0 :=
  (Spells.double escapes s.toList).spans

theorem jsonPath_spans {path : List String} (keeps : ∀ step ∈ path, d.KeepsOpen step) :
    d.Spans alone 0 (jsonPath path) 0 := by
  obtain ⟨said, spells⟩ := (Dialect.staysInside_path path).mpr keeps
  exact (spells.self (c := '$') (by decide) (by simp)).spans

end

theorem toUpper_of_isDigit {c : Char} (digit : c.isDigit) : c.toUpper = c := by
  have upper : ¬ (c.val ≥ 'a'.val ∧ c.val ≤ 'z'.val) := by
    simp only [Char.isDigit, Bool.and_eq_true, decide_eq_true_eq, ge_iff_le, UInt32.le_iff_toNat_le] at digit ⊢
    simp only [Char.reduceVal, UInt32.reduceToNat] at digit ⊢
    omega
  unfold Char.toUpper
  exact dif_neg upper

theorem digits_spans {d : Dialect} {alone : Bool} {cs : List Char} (digits : ∀ c ∈ cs, c.isDigit) :
    d.Spans alone 0 (String.ofList cs) 0 := by
  have word {c : Char} (digit : c.isDigit) : isWordChar c := by simp [isWordChar, Char.isAlphanum, digit]
  have one : walk d (.outside 0) cs = some (.outside 0) ∧
      lexemes d (.outside 0) cs = if cs = [] then [] else [.word cs] := by
    clear alone
    induction cs with
    | nil => exact ⟨rfl, rfl⟩
    | cons c cs ih =>
      have letter := word (digits c (by simp))
      have first := next_wordChar (d := d) letter 0
      have later := ih fun other member => digits other (List.mem_cons_of_mem _ member)
      cases cs <;> simp_all [lexemes, Lexeme.push]
  refine .scan one.1 ?_
  rw [one.2]
  cases cs with
  | nil => rfl
  | cons c cs =>
    have digit := digits c (by simp)
    have letters : c ≠ 'A' ∧ c ≠ 'O' ∧ c ≠ 'N' ∧ c ≠ 'B' := by
      refine ⟨?_, ?_, ?_, ?_⟩ <;> (rintro rfl; revert digit; decide)
    simp [unpaired, Lexeme.keyword?, toUpper_of_isDigit digit, letters]

theorem Nat.toString_spans {d : Dialect} {alone : Bool} (n : Nat) : d.Spans alone 0 (toString n) 0 := by
  rw [Nat.toString_eq_ofList_toDigits]
  exact digits_spans fun c member => Nat.isDigit_of_mem_toDigits (by decide) (by decide) member

theorem Int.toString_spans {d : Dialect} {alone : Bool} (n : Int) : d.Spans alone 0 (toString n) 0 := by
  cases n with
  | ofNat n => exact Nat.toString_spans n
  | negSucc n => exact (Nat.toString_spans (n + 1)).afterPlain rfl

namespace Target

section

variable {t : Target} {alone : Bool}

theorem plainTable_spans (name : String) : t.dialect.Spans alone 0 (t.plainTable name) 0 := by
  unfold plainTable
  split
  · exact (quoteName_spans _).link (quoteName_spans _) rfl
  · exact quoteName_spans _

theorem table_spans (name : String) : t.dialect.Spans alone 0 (t.table name) 0 := by
  unfold table
  split
  · exact (plainTable_spans _).link (quoteName_spans _) rfl
  · exact plainTable_spans name

theorem dotted_spans (name : String) : t.dialect.Spans alone 0 (t.dotted name) 0 := by
  unfold dotted
  split
  · exact (table_spans _).link (quoteName_spans _) rfl
  · apply Dialect.Spans.intercalate rfl
    intro part member
    obtain ⟨name, _, rfl⟩ := List.mem_map.mp member
    exact quoteName_spans name

theorem postgresStep_spans {d : Dialect} (escapes : d.hasBackslashEscapes = false) (step : String) :
    d.Spans alone 0 (postgresStep step) 0 := by
  unfold postgresStep
  split
  · rename_i digits
    rw [← String.ofList_toList (s := step)]
    exact digits_spans fun c member => List.all_eq_true.mp digits.2 c member
  · exact quoteText_spans escapes step

theorem postgresSteps_spans {d : Dialect} (escapes : d.hasBackslashEscapes = false) {i : Nat} {s : String}
    (before : d.Spans alone i s 0) (path : List String) : d.Spans alone i (s ++ postgresSteps path) 0 := by
  fun_induction postgresSteps path generalizing s with
  | case1 => simpa using before
  | case2 step =>
    rw [← String.append_assoc]
    exact before.link (postgresStep_spans escapes step) rfl
  | case3 step next rest ih =>
    rw [← String.append_assoc, ← String.append_assoc]
    exact ih (before.link (postgresStep_spans escapes step) rfl)

theorem Shelters.path {name : String} (shelters : t.Shelters name) (other : t.dialect ≠ .postgres) :
    ∀ step ∈ (Text.fieldAndPath name).2, t.dialect.KeepsOpen step :=
  fun step member => shelters.resolve_left other step (List.mem_append_left _ member)

theorem Shelters.alias {name column label : String} (shelters : t.Shelters name)
    (found : Text.splitAlias name = some (column, label)) (other : t.dialect ≠ .postgres) :
    ∀ step ∈ (Text.fieldAndPath column).2, t.dialect.KeepsOpen step := by
  intro step member
  refine shelters.resolve_left other step (List.mem_append_right _ ?_)
  simpa [found] using member

theorem jsonColumn_spans {name : String}
    (keeps : t.dialect ≠ .postgres → ∀ step ∈ (Text.fieldAndPath name).2, t.dialect.KeepsOpen step) :
    t.dialect.Spans alone 0 (t.jsonColumn name) 0 := by
  rcases found : Text.fieldAndPath name with ⟨field, path⟩
  rw [found] at keeps
  have column : t.dialect.Closed (t.dotted field) := dotted_spans field
  simp only [jsonColumn, found]
  split
  case h_4 postgres =>
    exact postgresSteps_spans (by rw [postgres]; rfl) (dotted_spans field) path
  all_goals
    rename_i other
    have literal : t.dialect.Closed (jsonPath path) := jsonPath_spans (keeps (by rw [other]; decide))
  · exact .arguments 1 1 column literal rfl
  all_goals exact .arguments 0 0 column literal rfl

theorem plainColumn_spans {name : String}
    (keeps : t.dialect ≠ .postgres → ∀ step ∈ (Text.fieldAndPath name).2, t.dialect.KeepsOpen step) :
    t.dialect.Spans alone 0 (t.plainColumn name) 0 := by
  unfold plainColumn
  split
  · exact jsonColumn_spans keeps
  · exact dotted_spans name

theorem column_spans {name : String} (shelters : t.Shelters name) : t.dialect.Spans alone 0 (t.column name) 0 := by
  unfold column
  split
  · rename_i found
    exact (plainColumn_spans (shelters.alias found)).link (quoteName_spans _) rfl
  · exact plainColumn_spans shelters.path

theorem columns_spans {names : List String} (shelters : ∀ name ∈ names, t.Shelters name) :
    t.dialect.Spans alone 0 (t.columns names) 0 := by
  apply Dialect.Spans.intercalate rfl
  intro part member
  obtain ⟨name, inNames, rfl⟩ := List.mem_map.mp member
  exact column_spans (shelters name inNames)

end

end Target

end SqlCompiler
