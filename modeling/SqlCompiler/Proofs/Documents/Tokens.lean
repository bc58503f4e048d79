import SqlCompiler.Proofs.Documents.Numbers

namespace SqlCompiler.Json

open Decimal (isDigit)

theorem hexValue?_hexDigit : ∀ n < 16, hexValue? (hexDigit n) = some n := by decide

theorem unit?_hexDigits {n : Nat} (small : n < 0x20) :
    unit? '0' '0' (hexDigit (n / 16)) (hexDigit (n % 16)) = some n := by
  have zero : hexValue? '0' = some 0 := by decide
  rw [unit?, zero, hexValue?_hexDigit _ (by omega), hexValue?_hexDigit _ (by omega)]
  simp only [Option.bind_eq_bind, Option.bind_some, Option.pure_def]
  congr 1
  omega

section

variable {c : Char} {code : Nat} (rest : List Char)

theorem textCodes_simple (escape : simpleEscape? c = some code) :
    textCodes ('\\' :: c :: rest) = (textCodes rest).map fun (codes, after) => (code :: codes, after) := by
  rw [textCodes, escape]
  · cases textCodes rest <;> rfl
  · rintro _ _ _ _ _ rfl
    exact absurd escape nofun

theorem textCodes_control (control : c.toNat < 0x20) :
    textCodes (['\\', 'u', '0', '0', hexDigit (c.toNat / 16), hexDigit (c.toNat % 16)] ++ rest) =
      (textCodes rest).map fun (codes, after) => (c.toNat :: codes, after) := by
  simp only [List.cons_append, List.nil_append]
  rw [textCodes, unit?_hexDigits control]
  cases textCodes rest <;> rfl

theorem textCodes_plain (quote : c ≠ '\x22') (backslash : c ≠ '\\') (visible : ¬c.toNat < 0x20) :
    textCodes (c :: rest) = (textCodes rest).map fun (codes, after) => (c.toNat :: codes, after) := by
  rw [textCodes, if_neg visible]
  · cases textCodes rest <;> rfl
  · exact quote
  · exact fun _ _ _ _ _ same _ => backslash same
  · exact fun _ _ same _ => backslash same

end

theorem escapeChar_cases (c : Char) :
    (∃ letter, escapeChar c = ['\\', letter] ∧ simpleEscape? letter = some c.toNat) ∨
      (escapeChar c = ['\\', 'u', '0', '0', hexDigit (c.toNat / 16), hexDigit (c.toNat % 16)] ∧ c.toNat < 0x20) ∨
      (escapeChar c = [c] ∧ c ≠ '\x22' ∧ c ≠ '\\' ∧ ¬c.toNat < 0x20) := by
  by_cases lettered : c ∈ ['\x22', '\\', '\n', '\r', '\t', '\x08', '\x0c']
  · simp only [List.mem_cons, List.not_mem_nil, or_false] at lettered
    rcases lettered with rfl | rfl | rfl | rfl | rfl | rfl | rfl <;> exact .inl ⟨_, rfl, rfl⟩
  · simp only [List.mem_cons, List.not_mem_nil, or_false, not_or] at lettered
    by_cases control : c.toNat < 0x20
    · exact .inr (.inl ⟨by simp [escapeChar, lettered, control], control⟩)
    · exact .inr (.inr ⟨by simp [escapeChar, lettered, control], lettered.1, lettered.2.1, control⟩)

theorem textCodes_escapeChar (c : Char) (rest : List Char) :
    textCodes (escapeChar c ++ rest) = (textCodes rest).map fun (codes, after) => (c.toNat :: codes, after) := by
  obtain ⟨letter, shape, escape⟩ | ⟨shape, control⟩ | ⟨shape, quote, backslash, visible⟩ := escapeChar_cases c
  · exact shape ▸ textCodes_simple rest escape
  · exact shape ▸ textCodes_control rest control
  · exact shape ▸ textCodes_plain rest quote backslash visible

theorem textCodes_escaped (cs rest : List Char) :
    textCodes (cs.flatMap escapeChar ++ '\x22' :: rest) = some (cs.map Char.toNat, rest) := by
  induction cs with
  | nil => simp [textCodes]
  | cons c cs ih => rw [List.flatMap_cons, List.append_assoc, textCodes_escapeChar, ih, Option.map_some, List.map_cons]

theorem not_unit (c : Char) : isHighUnit c.toNat = false ∧ isLowUnit c.toNat = false := by
  have valid : c.toNat < 0xd800 ∨ 0xdfff < c.toNat ∧ c.toNat < 0x110000 := c.valid
  simp only [isHighUnit, isLowUnit, Bool.and_eq_false_iff, decide_eq_false_iff_not]
  omega

theorem ofCodes_toNat (cs : List Char) : ofCodes (cs.map Char.toNat) = some cs := by
  induction cs with
  | nil => rfl
  | cons c cs ih =>
    obtain ⟨high, low⟩ := not_unit c
    cases cs with
    | nil => simp [ofCodes, high, low, Char.ofNat_toNat]
    | cons d cs =>
      rw [List.map_cons] at ih
      simp [ofCodes, high, low, ih, Char.ofNat_toNat]

theorem textOf?_toNat (s : String) : textOf? (s.toList.map Char.toNat) = some s := by
  rw [textOf?, ofCodes_toNat, Option.map_some, String.ofList_toList]

theorem mark_facts {c : Char} {token : Token} (mark : mark? c = some token) :
    isSpace c = false ∧ isNumberChar c = false ∧ c.isAlpha = false := by
  unfold mark? at mark
  split at mark
  all_goals first | decide | cases mark

theorem number_start_facts {c : Char} (start : c = '-' ∨ isDigit c) :
    isSpace c = false ∧ mark? c = none ∧ c ≠ '\x22' := by
  have number : isNumberChar c := by
    rcases start with rfl | digit
    · decide
    · simp [isNumberChar, digit]
  refine ⟨?_, ?_, ?_⟩
  · rw [← Bool.not_eq_true]
    intro space
    simp only [isSpace, Bool.or_eq_true, decide_eq_true_eq] at space
    rcases space with ((rfl | rfl) | rfl) | rfl <;> exact absurd number (by decide)
  · rw [Option.eq_none_iff_forall_ne_some]
    intro token mark
    simp [mark_facts mark] at number
  · rintro rfl
    exact absurd number (by decide)

theorem keyword_facts {cs : List Char} {value : Json} (read : keyword? cs = some value) :
    ∃ c rest, cs = c :: rest ∧ (isSpace c = false ∧ mark? c = none ∧ c ≠ '\x22' ∧ ¬(c = '-' ∨ isDigit c)) ∧
      ∀ d ∈ rest, d.isAlpha := by
  unfold keyword? at read
  split at read
  next null => exact ⟨'n', _, null, by decide, List.all_eq_true.mp rfl⟩
  split at read
  next yes => exact ⟨'t', _, yes, by decide, List.all_eq_true.mp rfl⟩
  split at read
  next no => exact ⟨'f', _, no, by decide, List.all_eq_true.mp rfl⟩
  cases read

theorem tokens_mark {c : Char} {token : Token} (mark : mark? c = some token) (rest : List Char) :
    tokens (c :: rest) = (tokens rest).map (token :: ·) := by
  rw [tokens, (mark_facts mark).1, mark]
  rfl

theorem tokens_quoted (s : String) (rest : List Char) :
    tokens ((quoted s).toList ++ rest) = (tokens rest).map (.text (s.toList.map Char.toNat) :: ·) := by
  have shape : (quoted s).toList ++ rest = '\x22' :: (s.toList.flatMap escapeChar ++ '\x22' :: rest) := by
    simp [quoted]
  have quote : isSpace '\x22' = false ∧ mark? '\x22' = none := by decide
  rw [shape, tokens, quote.1, quote.2]
  simp only [Bool.false_eq_true, if_false, if_true]
  split
  next missing =>
    rw [textCodes_escaped] at missing
    cases missing
  next codes after found =>
    rw [textCodes_escaped] at found
    cases found
    rfl

def Ends (rest : List Char) : Prop := ∀ c ∈ rest.head?, (mark? c).isSome

section

variable {cs rest : List Char}

theorem spans {p : Char → Bool} (all : ∀ c ∈ cs, p c) (ends : ∀ c ∈ rest.head?, p c = false) :
    (cs ++ rest).takeWhile p = cs ∧ (cs ++ rest).dropWhile p = rest := by
  rw [List.takeWhile_append_of_pos all, List.dropWhile_append_of_pos all]
  cases rest with
  | nil => exact ⟨List.append_nil cs, rfl⟩
  | cons c rest => simp [ends c rfl]

theorem Ends.facts (ends : Ends rest) : ∀ c ∈ rest.head?, isNumberChar c = false ∧ c.isAlpha = false := by
  intro c first
  obtain ⟨token, mark⟩ := Option.isSome_iff_exists.mp (ends c first)
  exact (mark_facts mark).2

theorem tokens_number (numeric : Numeric cs) (ends : Ends rest) :
    tokens (cs ++ rest) = (numeral? cs).bind fun numeral => (tokens rest).map (.number numeral :: ·) := by
  obtain ⟨⟨first, others, rfl, start⟩, all⟩ := numeric
  obtain ⟨space, notMark, quote⟩ := number_start_facts start
  obtain ⟨whole, after⟩ := spans (List.forall_mem_cons.mp all).2 fun c member => (ends.facts c member).1
  rw [List.cons_append, tokens, space, notMark, whole, after]
  simp only [Bool.false_eq_true, if_false, quote, start, if_true]
  cases numeral? (first :: others) <;> cases tokens rest <;> rfl

theorem tokens_keyword {value : Json} (read : keyword? cs = some value) (ends : Ends rest) :
    tokens (cs ++ rest) = (tokens rest).map (.plain value :: ·) := by
  obtain ⟨first, others, rfl, ⟨space, notMark, quote, start⟩, all⟩ := keyword_facts read
  obtain ⟨whole, after⟩ := spans all fun c member => (ends.facts c member).2
  rw [List.cons_append, tokens, space, notMark, whole, after, read]
  simp only [Bool.false_eq_true, if_false, quote, start]
  cases tokens rest <;> rfl

end

end SqlCompiler.Json
