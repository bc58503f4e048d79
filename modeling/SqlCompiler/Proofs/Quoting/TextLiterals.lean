import SqlCompiler.Proofs.Placement.Scanning

namespace SqlCompiler

/-- What is written inside a literal spells what the literal says. -/
inductive Spells (d : Dialect) : List Char → List Char → Prop
  | nil : Spells d [] []
  | apostrophe {written said : List Char} (rest : Spells d written said) :
      Spells d ('\x27' :: '\x27' :: written) ('\x27' :: said)
  | escape {c : Char} {written said : List Char} (escapes : d.hasBackslashEscapes) (rest : Spells d written said) :
      Spells d ('\\' :: c :: written) (c :: said)
  | self {c : Char} {written said : List Char} (quote : c ≠ '\x27') (plain : ¬ (d.hasBackslashEscapes ∧ c = '\\'))
      (rest : Spells d written said) : Spells d (c :: written) (c :: said)

def saying (said : List Char) (read : List Char × List Char) : List Char × List Char := (said ++ read.1, read.2)

@[simp]
theorem saying_nil : saying [] = id := rfl

@[simp]
theorem saying_saying (first said : List Char) (read : List Char × List Char) :
    saying first (saying said read) = saying (first ++ said) read := by simp [saying]

theorem map_saying_eq_some {read : Option (List Char × List Char)} {first said rest : List Char}
    (found : read.map (saying first) = some (said, rest)) :
    ∃ later, read = some (later, rest) ∧ first ++ later = said := by
  obtain ⟨⟨later, rest⟩, read_eq, same⟩ := Option.map_eq_some_iff.mp found
  cases same
  exact ⟨later, read_eq, rfl⟩

/-- What a literal says from here on and what stands behind it; nothing if it is never closed. -/
def readInside (d : Dialect) : List Char → Option (List Char × List Char)
  | [] => none
  | [c] => if c = '\x27' then some ([], []) else none
  | c :: next :: cs =>
    if d.hasBackslashEscapes ∧ c = '\\' then (readInside d cs).map (saying [next])
    else if c = '\x27' then
      if next = '\x27' then (readInside d cs).map (saying ['\x27']) else some ([], next :: cs)
    else (readInside d (next :: cs)).map (saying [c])

namespace Dialect

/-- The literal at the start of a text: what it says, and the text behind it. -/
def readLiteral (d : Dialect) (sql : String) : Option (String × String) :=
  match sql.toList with
  | '\x27' :: cs => (readInside d cs).map (Prod.map String.ofList String.ofList)
  | _ => none

/-- The text is one literal, whose first character is closed by its last. -/
def IsLiteral (d : Dialect) (sql : String) : Prop := ∃ said, d.readLiteral sql = some (said, "")

end Dialect

theorem readInside_self {d : Dialect} {c : Char} (quote : c ≠ '\x27') (plain : ¬ (d.hasBackslashEscapes ∧ c = '\\'))
    (cs : List Char) : readInside d (c :: cs) = (readInside d cs).map (saying [c]) := by
  cases cs with
  | nil => simp [readInside, quote]
  | cons next cs => rw [readInside, if_neg plain, if_neg quote]

namespace Spells

variable {d : Dialect} {written said : List Char}

theorem append {written' said' : List Char} (first : Spells d written said) (later : Spells d written' said') :
    Spells d (written ++ written') (said ++ said') := by
  induction first with
  | nil => exact later
  | apostrophe _ ih => exact .apostrophe ih
  | escape escapes _ ih => exact .escape escapes ih
  | self quote plain _ ih => exact .self quote plain ih

theorem readInside_append (spells : Spells d written said) (cs : List Char) :
    readInside d (written ++ cs) = (readInside d cs).map (saying said) := by
  induction spells with
  | nil => simp
  | apostrophe _ ih => simp [readInside, ih, Function.comp_def]
  | escape escapes _ ih => simp [readInside, escapes, ih, Function.comp_def]
  | self quote plain _ ih => simp [readInside_self quote plain, ih, Function.comp_def]

end Spells

/-- A reading takes what is spelled up to an apostrophe without a second one behind it. -/
theorem readInside_eq_some_iff {d : Dialect} {cs said rest : List Char} :
    readInside d cs = some (said, rest) ↔
      ∃ written, cs = written ++ '\x27' :: rest ∧ Spells d written said ∧ rest.head? ≠ some '\x27' := by
  constructor
  · intro read
    fun_induction readInside d cs generalizing said rest with
    | case1 => cases read
    | case2 =>
      cases read
      exact ⟨[], rfl, .nil, by simp⟩
    | case3 => cases read
    | case4 c next cs escape ih =>
      obtain ⟨_, later, rfl⟩ := map_saying_eq_some read
      obtain ⟨written, rfl, spells, alone⟩ := ih later
      exact ⟨'\\' :: next :: written, by simp [escape.2], .escape escape.1 spells, alone⟩
    | case5 cs _ ih =>
      obtain ⟨_, later, rfl⟩ := map_saying_eq_some read
      obtain ⟨written, rfl, spells, alone⟩ := ih later
      exact ⟨'\x27' :: '\x27' :: written, rfl, .apostrophe spells, alone⟩
    | case6 next cs single =>
      cases read
      exact ⟨[], rfl, .nil, by simpa using single⟩
    | case7 c next cs plain quote ih =>
      obtain ⟨_, later, rfl⟩ := map_saying_eq_some read
      obtain ⟨written, written_eq, spells, alone⟩ := ih later
      exact ⟨c :: written, by rw [written_eq]; rfl, .self quote plain spells, alone⟩
  · rintro ⟨written, rfl, spells, alone⟩
    rw [spells.readInside_append]
    cases rest with
    | nil => simp [readInside, saying]
    | cons next rest =>
      have single : next ≠ '\x27' := by simpa using alone
      simp [readInside, single, saying]

theorem Spells.scan {d : Dialect} {written said : List Char} (spells : Spells d written said) :
    Quoting.after d .literal written = .literal ∧ placeholderCount d .literal written = 0 := by
  induction spells with
  | nil => exact ⟨rfl, rfl⟩
  | apostrophe _ ih =>
    -- The first of two apostrophes leads out of the literal, but only as far as the second.
    have leaves : Quoting.next d .literal '\x27' = .outside := by cases d <;> rfl
    have enters : Quoting.next d .outside '\x27' = .literal := by cases d <;> rfl
    simp [placeholderCount, leaves, enters, ih]
  | @escape c _ _ escapes _ ih =>
    have takes : Quoting.next d .literal '\\' = .escaped := by simp [Quoting.next, escapes]
    have returns : Quoting.next d .escaped c = .literal := rfl
    simp [placeholderCount, takes, returns, ih]
  | @self c _ _ quote plain _ ih =>
    have stays : Quoting.next d .literal c = .literal := by simp [Quoting.next, quote, plain]
    simp [placeholderCount, stays, ih]

theorem Spells.inert {d : Dialect} {written said : List Char} (spells : Spells d written said) :
    d.Inert (String.ofList ('\x27' :: written ++ ['\x27'])) :=
  inert_between (by cases d <;> rfl) (by decide) spells.scan (by cases d <;> rfl) (by decide)

namespace Spells

theorem same {d : Dialect} {cs : List Char} (quotes : '\x27' ∉ cs)
    (backslashes : d.hasBackslashEscapes → '\\' ∉ cs) : Spells d cs cs := by
  induction cs with
  | nil => exact .nil
  | cons c cs ih =>
    simp only [List.mem_cons, not_or] at quotes backslashes
    have later := ih quotes.2 fun escapes => (backslashes escapes).2
    exact later.self (Ne.symm quotes.1) fun both => (backslashes both.1).1 both.2.symm

theorem double {d : Dialect} (escapes : d.hasBackslashEscapes = false) (cs : List Char) :
    Spells d (Text.double '\x27' cs) cs := by
  have plain (c : Char) : ¬ (d.hasBackslashEscapes ∧ c = '\\') := by simp [escapes]
  induction cs with
  | nil => exact .nil
  | cons c cs ih =>
    by_cases quote : c = '\x27'
    · subst quote
      simpa [Text.double] using ih.apostrophe
    · simpa [Text.double, quote] using ih.self quote (plain c)

theorem double_double {d : Dialect} (escapes : d.hasBackslashEscapes) (cs : List Char) :
    Spells d (Text.double '\x27' (Text.double '\\' cs)) cs := by
  induction cs with
  | nil => exact .nil
  | cons c cs ih =>
    by_cases backslash : c = '\\'
    · subst backslash
      simpa [Text.double] using ih.escape escapes
    · by_cases quote : c = '\x27'
      · subst quote
        simpa [Text.double] using ih.apostrophe
      · simpa [Text.double, backslash, quote] using ih.self quote fun both => backslash both.2

end Spells

namespace Dialect

theorem readLiteral_append {d : Dialect} {written said : List Char} (spells : Spells d written said) (rest : String) :
    d.readLiteral (String.ofList ('\x27' :: written ++ ['\x27']) ++ rest) =
      (readInside d ('\x27' :: rest.toList)).map
        fun read => (String.ofList (said ++ read.1), String.ofList read.2) := by
  simp [readLiteral, spells.readInside_append, saying, Function.comp_def]

theorem isLiteral_iff {d : Dialect} {written : List Char} :
    d.IsLiteral (String.ofList ('\x27' :: written ++ ['\x27'])) ↔ ∃ said, Spells d written said := by
  have chars : (String.ofList ('\x27' :: written ++ ['\x27'])).toList = '\x27' :: (written ++ ['\x27']) := by simp
  constructor
  · rintro ⟨said, read⟩
    simp only [readLiteral, chars] at read
    obtain ⟨⟨said', rest⟩, inside, same⟩ := Option.map_eq_some_iff.mp read
    have ends : rest = [] := by simpa using congrArg Prod.snd same
    obtain ⟨written', cut, spells, _⟩ := readInside_eq_some_iff.mp (ends ▸ inside)
    exact ⟨said', List.append_cancel_right cut ▸ spells⟩
  · rintro ⟨said, spells⟩
    have read := readLiteral_append spells ""
    exact ⟨String.ofList said, by simpa [readInside] using read⟩

theorem not_isLiteral {d : Dialect} {sql said rest : String} (read : d.readLiteral sql = some (said, rest))
    (more : rest ≠ "") : ¬ d.IsLiteral sql := by
  rintro ⟨said', whole⟩
  exact more (congrArg Prod.snd (Option.some.inj (read.symm.trans whole)))

/-- What stands in the literal of a text, between its apostrophes. -/
def inside (d : Dialect) (cs : List Char) : List Char :=
  Text.double '\x27' (if d.hasBackslashEscapes then Text.double '\\' cs else cs)

theorem inside_spells (d : Dialect) (cs : List Char) : Spells d (d.inside cs) cs := by
  unfold inside
  split
  case isTrue escapes => exact .double_double escapes cs
  case isFalse escapes => exact .double (by simpa using escapes) cs

theorem textLiteral_eq (d : Dialect) (s : String) :
    d.textLiteral s = if '\x00' ∈ s.toList then .error (.invalid .nulCharacter)
      else .ok (String.ofList ('\x27' :: d.inside s.toList ++ ['\x27'])) := by
  unfold textLiteral inside quoteText
  simp only [List.contains_iff_mem, String.toList_ofList]
  split
  · rfl
  · split <;> rfl

theorem textLiteral_ok {d : Dialect} {s literal : String} (written : d.textLiteral s = .ok literal) :
    literal = String.ofList ('\x27' :: d.inside s.toList ++ ['\x27']) := by
  rw [textLiteral_eq] at written
  split at written
  · cases written
  · exact (Except.ok.inj written).symm

theorem readLiteral_textLiteral {d : Dialect} {s literal : String} (written : d.textLiteral s = .ok literal)
    (rest : String) (alone : rest.toList.head? ≠ some '\x27') :
    d.readLiteral (literal ++ rest) = some (s, rest) := by
  have stops : readInside d ('\x27' :: rest.toList) = some ([], rest.toList) :=
    readInside_eq_some_iff.mpr ⟨[], rfl, .nil, alone⟩
  rw [textLiteral_ok written, readLiteral_append (d.inside_spells s.toList), stops]
  simp

theorem readLiteral_textLiteral_suffix {d : Dialect} {s literal rest said after : String}
    (written : d.textLiteral s = .ok literal) (read : d.readLiteral (literal ++ rest) = some (said, after)) :
    after.toList <:+ rest.toList := by
  rw [textLiteral_ok written, readLiteral_append (d.inside_spells s.toList)] at read
  obtain ⟨⟨more, left⟩, inside, same⟩ := Option.map_eq_some_iff.mp read
  obtain rfl : String.ofList left = after := congrArg Prod.snd same
  obtain ⟨between, cut, _⟩ := readInside_eq_some_iff.mp inside
  rw [String.toList_ofList]
  cases between with
  | nil => simp_all
  | cons c between =>
    have later : rest.toList = between ++ '\x27' :: left := (List.cons.inj cut).2
    exact later ▸ ⟨between ++ ['\x27'], by simp⟩

/-- A text without NUL is what its literal says, a text with NUL has no literal, and no two texts share one. -/
theorem textLiteral_reads_back (d : Dialect) (s : String) :
    ('\x00' ∈ s.toList → d.textLiteral s = .error (.invalid .nulCharacter)) ∧
    ('\x00' ∉ s.toList → ∃ literal, d.textLiteral s = .ok literal ∧
      (∀ rest : String, rest.toList.head? ≠ some '\x27' → d.readLiteral (literal ++ rest) = some (s, rest)) ∧
      (∀ rest said after : String, d.readLiteral (literal ++ rest) = some (said, after) →
        after.toList <:+ rest.toList) ∧
      ∀ other, d.textLiteral other = .ok literal → other = s) := by
  refine ⟨fun nul => by rw [textLiteral_eq, if_pos nul], fun clean => ?_⟩
  have written := textLiteral_eq d s
  rw [if_neg clean] at written
  refine ⟨_, written, readLiteral_textLiteral written, ?_, ?_⟩
  · exact fun rest said after read => readLiteral_textLiteral_suffix written read
  · intro other same
    have first := readLiteral_textLiteral written "" (by simp)
    have second := readLiteral_textLiteral same "" (by simp)
    simpa using second.symm.trans first

/-- A backslash and an apostrophe. An apostrophe right behind the literal goes on with it, a later one does not. -/
theorem textLiteral_reads_back_marks :
    ('\x00' ∉ "\\\x27".toList ∧ " = \x27\x27".toList.head? ≠ some '\x27') ∧
    Dialect.mysql.textLiteral "\\\x27" = .ok "\x27\\\\\x27\x27\x27" ∧
    Dialect.mysql.readLiteral ("\x27\\\\\x27\x27\x27" ++ " = \x27\x27") = some ("\\\x27", " = \x27\x27") ∧
    Dialect.mysql.readLiteral ("\x27\\\\\x27\x27\x27" ++ "\x27s\x27 = ?") = some ("\\\x27\x27s", " = ?") ∧
    " = ?".toList <:+ "\x27s\x27 = ?".toList ∧
    (∀ other, Dialect.mysql.textLiteral other = .ok "\x27\\\\\x27\x27\x27" → other = "\\\x27") ∧
    '\x00' ∈ "\x00".toList ∧ Dialect.mysql.textLiteral "\x00" = .error (.invalid .nulCharacter) := by
  have clean : '\x00' ∉ "\\\x27".toList := by decide
  have alone : " = \x27\x27".toList.head? ≠ some '\x27' := by decide
  have nul : '\x00' ∈ "\x00".toList := by decide
  have written : Dialect.mysql.textLiteral "\\\x27" = .ok "\x27\\\\\x27\x27\x27" := rfl
  have longer : Dialect.mysql.readLiteral ("\x27\\\\\x27\x27\x27" ++ "\x27s\x27 = ?") =
      some ("\\\x27\x27s", " = ?") := by decide
  obtain ⟨literal, same, reads, shortens, only⟩ := (textLiteral_reads_back .mysql "\\\x27").2 clean
  obtain rfl := Except.ok.inj (written.symm.trans same)
  exact ⟨⟨clean, alone⟩, written, reads _ alone, longer, shortens _ _ _ longer, only, nul,
    (textLiteral_reads_back .mysql "\x00").1 nul⟩

end Dialect

end SqlCompiler
