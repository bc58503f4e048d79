import SqlCompiler.Proofs.Quoting.TextLiterals
import SqlCompiler.Identifier

namespace SqlCompiler

def Dialect.StaysInside (d : Dialect) (written : List Char) : Prop := ∃ said, Spells d written said

section

variable {d : Dialect}

theorem staysInside_nil : d.StaysInside [] := ⟨[], .nil⟩

theorem Spells.cut {a b said : List Char} {c : Char} (quote : c ≠ '\x27') (backslash : c ≠ '\\')
    (spells : Spells d (a ++ c :: b) said) : d.StaysInside (a ++ [c]) ∧ d.StaysInside b := by
  have plain : ¬ (d.hasBackslashEscapes ∧ c = '\\') := fun both => backslash both.2
  generalize whole : a ++ c :: b = written at spells
  induction spells generalizing a with
  | nil => simp at whole
  | apostrophe _ ih =>
    match a, whole with
    | [], whole => simp_all
    | [_], whole => simp_all
    | x :: y :: a, whole =>
      simp only [List.cons_append, List.cons.injEq] at whole
      obtain ⟨rfl, rfl, later⟩ := whole
      obtain ⟨⟨_, front⟩, back⟩ := ih later
      exact ⟨⟨_, front.apostrophe⟩, back⟩
  | escape escapes rest ih =>
    match a, whole with
    | [], whole => simp_all
    | [x], whole =>
      simp only [List.cons_append, List.nil_append, List.cons.injEq] at whole
      obtain ⟨rfl, rfl, rfl⟩ := whole
      exact ⟨⟨_, .escape escapes .nil⟩, _, rest⟩
    | x :: y :: a, whole =>
      simp only [List.cons_append, List.cons.injEq] at whole
      obtain ⟨rfl, rfl, later⟩ := whole
      obtain ⟨⟨_, front⟩, back⟩ := ih later
      exact ⟨⟨_, front.escape escapes⟩, back⟩
  | self other single rest ih =>
    match a, whole with
    | [], whole =>
      simp only [List.nil_append, List.cons.injEq] at whole
      obtain ⟨rfl, rfl⟩ := whole
      exact ⟨⟨_, .self quote plain .nil⟩, _, rest⟩
    | x :: a, whole =>
      simp only [List.cons_append, List.cons.injEq] at whole
      obtain ⟨rfl, later⟩ := whole
      obtain ⟨⟨_, front⟩, back⟩ := ih later
      exact ⟨⟨_, front.self other single⟩, back⟩

theorem staysInside_append {a b : List Char} {c : Char} (quote : c ≠ '\x27') (backslash : c ≠ '\\') :
    d.StaysInside (a ++ c :: b) ↔ d.StaysInside (a ++ [c]) ∧ d.StaysInside b := by
  constructor
  · rintro ⟨_, spells⟩
    exact spells.cut quote backslash
  · rintro ⟨⟨_, front⟩, _, back⟩
    exact ⟨_, by simpa using front.append back⟩

theorem staysInside_self {c : Char} {cs : List Char} (quote : c ≠ '\x27')
    (plain : ¬ (d.hasBackslashEscapes ∧ c = '\\')) : d.StaysInside (c :: cs) ↔ d.StaysInside cs := by
  constructor
  · rintro ⟨_, spells⟩
    cases spells with
    | apostrophe _ => exact absurd rfl quote
    | escape escapes _ => exact absurd ⟨escapes, rfl⟩ plain
    | self _ _ rest => exact ⟨_, rest⟩
  · rintro ⟨_, spells⟩
    exact ⟨_, spells.self quote plain⟩

theorem staysInside_escape {c : Char} {cs : List Char} (escapes : d.hasBackslashEscapes) :
    d.StaysInside ('\\' :: c :: cs) ↔ d.StaysInside cs := by
  constructor
  · rintro ⟨_, spells⟩
    cases spells with
    | escape _ rest => exact ⟨_, rest⟩
    | self _ plain _ => exact absurd ⟨escapes, rfl⟩ plain
  · rintro ⟨_, spells⟩
    exact ⟨_, spells.escape escapes⟩

theorem staysInside_apostrophe {c : Char} {cs : List Char} :
    d.StaysInside ('\x27' :: c :: cs) ↔ c = '\x27' ∧ d.StaysInside cs := by
  constructor
  · rintro ⟨_, spells⟩
    cases spells with
    | apostrophe rest => exact ⟨rfl, _, rest⟩
    | self quote _ _ => exact absurd rfl quote
  · rintro ⟨rfl, _, spells⟩
    exact ⟨_, spells.apostrophe⟩

end

def backslashesAtEnd (cs : List Char) : Nat := (cs.reverse.takeWhile (· = '\\')).length

/-- An apostrophe stands behind an odd number of backslashes, the last of which takes it as it stands. -/
def EscapedApostrophe (key : List Char) : Prop :=
  ∃ before after, key = before ++ '\x27' :: after ∧ backslashesAtEnd before % 2 = 1

theorem backslashesAtEnd_le (cs : List Char) : backslashesAtEnd cs ≤ cs.length := by
  simpa [backslashesAtEnd] using (List.takeWhile_sublist (· = '\\') (l := cs.reverse)).length_le

theorem backslashesAtEnd_cons (c : Char) (cs : List Char) :
    backslashesAtEnd (c :: cs) =
      if c = '\\' ∧ backslashesAtEnd cs = cs.length then cs.length + 1 else backslashesAtEnd cs := by
  unfold backslashesAtEnd
  rw [List.reverse_cons, List.takeWhile_append, List.length_reverse]
  by_cases backslash : c = '\\'
  · simp only [backslash, true_and]
    split <;> simp
  · split <;> simp_all

theorem backslashesAtEnd_pair (c : Char) (cs : List Char) :
    backslashesAtEnd ('\\' :: c :: cs) % 2 = backslashesAtEnd cs % 2 := by
  have most := backslashesAtEnd_le cs
  simp only [backslashesAtEnd_cons, List.length_cons, true_and]
  split <;> split <;> omega

theorem not_escapedApostrophe_of_absent {key : List Char} (absent : '\x27' ∉ key) : ¬ EscapedApostrophe key := by
  rintro ⟨before, after, rfl, _⟩
  simp at absent

theorem escapedApostrophe_cons {c : Char} {cs : List Char} (other : c ≠ '\\') :
    EscapedApostrophe (c :: cs) ↔ EscapedApostrophe cs := by
  have same (before : List Char) : backslashesAtEnd (c :: before) = backslashesAtEnd before := by
    simp [backslashesAtEnd_cons, other]
  constructor
  · rintro ⟨before, after, cut, odd⟩
    cases before with
    | nil => cases odd
    | cons _ before =>
      obtain ⟨rfl, later⟩ := List.cons.inj cut
      exact ⟨before, after, later, same before ▸ odd⟩
  · rintro ⟨before, after, rfl, odd⟩
    exact ⟨c :: before, after, rfl, (same before).symm ▸ odd⟩

theorem escapedApostrophe_pair {c : Char} {cs : List Char} :
    EscapedApostrophe ('\\' :: c :: cs) ↔ c = '\x27' ∨ EscapedApostrophe cs := by
  constructor
  · rintro ⟨before, after, cut, odd⟩
    cases before with
    | nil => cases odd
    | cons _ before =>
      obtain ⟨rfl, rest⟩ := List.cons.inj cut
      cases before with
      | nil => exact .inl (List.cons.inj rest).1
      | cons _ before =>
        obtain ⟨rfl, later⟩ := List.cons.inj rest
        exact .inr ⟨before, after, later, backslashesAtEnd_pair c before ▸ odd⟩
  · rintro (rfl | ⟨before, after, rfl, odd⟩)
    · exact ⟨['\\'], cs, rfl, rfl⟩
    · exact ⟨'\\' :: c :: before, after, rfl, (backslashesAtEnd_pair c before).symm ▸ odd⟩

section

variable {d : Dialect}

theorem not_staysInside_odd (key : List Char) :
    ¬ d.StaysInside ('\x27' :: (key.flatMap escapeKey ++ ['\x22'])) := by
  induction key with
  | nil => simp [staysInside_apostrophe]
  | cons c cs ih =>
    by_cases quote : c = '\x27'
    · simpa [escapeKey, quote, staysInside_apostrophe] using ih
    · by_cases double : c = '\x22' <;> simp [escapeKey, quote, double, staysInside_apostrophe]

theorem key_staysInside (escapes : d.hasBackslashEscapes = false) (key : List Char) :
    d.StaysInside (key.flatMap escapeKey ++ ['\x22']) := by
  have plain (c : Char) : ¬ (d.hasBackslashEscapes ∧ c = '\\') := by simp [escapes]
  induction key with
  | nil => exact (staysInside_self (by decide) (plain _)).mpr staysInside_nil
  | cons c cs ih =>
    by_cases quote : c = '\x27'
    · simpa [escapeKey, quote, staysInside_apostrophe] using ih
    · by_cases double : c = '\x22'
      · subst double
        simpa [escapeKey, staysInside_self, escapes] using ih
      · simpa [escapeKey, quote, double, staysInside_self, escapes] using ih

theorem escapedKey_staysInside_iff (escapes : d.hasBackslashEscapes) (key : List Char) :
    d.StaysInside (key.flatMap escapeKey ++ ['\x22']) ↔ ¬ EscapedApostrophe key := by
  match key with
  | [] => simp [staysInside_self, staysInside_nil, not_escapedApostrophe_of_absent]
  | c :: cs =>
    by_cases backslash : c = '\\'
    · subst backslash
      match cs with
      | [] => simp [escapeKey, staysInside_escape escapes, staysInside_nil, not_escapedApostrophe_of_absent]
      | next :: cs =>
        have ih := escapedKey_staysInside_iff escapes cs
        have odd := not_staysInside_odd (d := d) cs
        rw [escapedApostrophe_pair]
        by_cases quote : next = '\x27'
        · simpa [escapeKey, quote, staysInside_escape escapes] using odd
        · by_cases double : next = '\x22'
          · subst double
            simpa [escapeKey, staysInside_escape escapes, staysInside_self] using ih
          · simpa [escapeKey, quote, double, staysInside_escape escapes] using ih
    · have ih := escapedKey_staysInside_iff escapes cs
      rw [escapedApostrophe_cons backslash]
      by_cases quote : c = '\x27'
      · simpa [escapeKey, quote, staysInside_apostrophe] using ih
      · by_cases double : c = '\x22'
        · subst double
          simpa [escapeKey, staysInside_escape escapes] using ih
        · simpa [escapeKey, quote, double, staysInside_self, backslash] using ih

theorem key_staysInside_iff (key : List Char) :
    d.StaysInside (key.flatMap escapeKey ++ ['\x22']) ↔ (d.hasBackslashEscapes → ¬ EscapedApostrophe key) := by
  cases escapes : d.hasBackslashEscapes with
  | true => simpa using escapedKey_staysInside_iff escapes key
  | false => simpa using key_staysInside escapes key

end

theorem splitIndex_closed (step : List Char) :
    (splitIndex step).2 = [] ∨ ∃ cs, (splitIndex step).2 = cs ++ [']'] := by
  unfold splitIndex
  split
  case isFalse => exact .inl rfl
  case isTrue bracketed =>
    obtain ⟨front, rfl⟩ := List.getLast?_eq_some_iff.mp bracketed.2
    rw [List.dropWhile_append]
    split
    · exact .inl rfl
    · exact .inr ⟨_, rfl⟩

namespace Dialect

/-- A step does not close the literal that it is written in, neither by its key nor by its index. -/
def KeepsOpen (d : Dialect) (step : String) : Prop :=
  (d.hasBackslashEscapes → ¬ EscapedApostrophe (splitIndex step.toList).1) ∧
    d.StaysInside (splitIndex step.toList).2

theorem staysInside_pathStep {d : Dialect} (step : String) (rest : List Char) :
    d.StaysInside (pathStep step ++ rest) ↔ d.KeepsOpen step ∧ d.StaysInside rest := by
  have index : d.StaysInside ((splitIndex step.toList).2 ++ rest) ↔
      d.StaysInside (splitIndex step.toList).2 ∧ d.StaysInside rest := by
    rcases splitIndex_closed step.toList with none | ⟨cs, closed⟩
    · simp [none, staysInside_nil]
    · rw [closed, List.append_assoc]
      exact staysInside_append (by decide) (by decide)
  rw [KeepsOpen, and_assoc, ← index, ← key_staysInside_iff]
  by_cases empty : (splitIndex step.toList).1 = []
  · simp [pathStep, empty, staysInside_self, staysInside_nil]
  · have written : pathStep step ++ rest = '.' :: '\x22' ::
        ((splitIndex step.toList).1.flatMap escapeKey ++ '\x22' :: ((splitIndex step.toList).2 ++ rest)) := by
      simp [pathStep, empty]
    rw [written, staysInside_self (by decide) (by simp), staysInside_self (by decide) (by simp)]
    exact staysInside_append (by decide) (by decide)

theorem staysInside_path {d : Dialect} (path : List String) :
    d.StaysInside (path.flatMap pathStep) ↔ ∀ step ∈ path, d.KeepsOpen step := by
  induction path with
  | nil => simp [staysInside_nil]
  | cons step path ih => simp [staysInside_pathStep, ih]

/-- The path of a column is one literal exactly if none of its steps closes it. -/
theorem jsonPath_isLiteral_iff (d : Dialect) (column : String) :
    d.IsLiteral (jsonPath (Text.fieldAndPath column).2) ↔
      ∀ step ∈ (Text.fieldAndPath column).2, d.KeepsOpen step := by
  rw [← staysInside_path, ← staysInside_self (by decide : '$' ≠ '\x27') (by simp)]
  exact isLiteral_iff

/-- An index adds a column to what is selected; a key with a backslash leaves the rest of its path outside. -/
theorem jsonPath_closed_early :
    readLiteral .sqlite (jsonPath (Text.fieldAndPath "meta->a[\x27 || pay || \x27]").2) =
      some ("$.\x22a\x22[", " || pay || \x27]\x27") ∧
    readLiteral .sqlServer (jsonPath (Text.fieldAndPath "meta->a[\x27 + pay + \x27]").2) =
      some ("$.\x22a\x22[", " + pay + \x27]\x27") ∧
    readLiteral .mysql (jsonPath (Text.fieldAndPath "meta->a\\\x27").2) = some ("$.\x22a\x27", "\x22\x27") ∧
    ¬ IsLiteral .sqlite (jsonPath (Text.fieldAndPath "meta->a[\x27 || pay || \x27]").2) ∧
    ¬ IsLiteral .sqlServer (jsonPath (Text.fieldAndPath "meta->a[\x27 + pay + \x27]").2) ∧
    ¬ IsLiteral .mysql (jsonPath (Text.fieldAndPath "meta->a\\\x27").2) := by
  have inSqlite : readLiteral .sqlite (jsonPath (Text.fieldAndPath "meta->a[\x27 || pay || \x27]").2) =
      some ("$.\x22a\x22[", " || pay || \x27]\x27") := rfl
  have inSqlServer : readLiteral .sqlServer (jsonPath (Text.fieldAndPath "meta->a[\x27 + pay + \x27]").2) =
      some ("$.\x22a\x22[", " + pay + \x27]\x27") := rfl
  have inMysql : readLiteral .mysql (jsonPath (Text.fieldAndPath "meta->a\\\x27").2) =
      some ("$.\x22a\x27", "\x22\x27") := rfl
  exact ⟨inSqlite, inSqlServer, inMysql, not_isLiteral inSqlite (by decide), not_isLiteral inSqlServer (by decide),
    not_isLiteral inMysql (by decide)⟩

end Dialect

end SqlCompiler
