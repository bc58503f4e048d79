import SqlCompiler.Proofs.Documents.Tokens
import SqlCompiler.Version

namespace SqlCompiler

namespace Text

theorem occursIn_append {part cs : List Char} (occurs : occursIn part cs) (before : List Char) :
    occursIn part (before ++ cs) := by
  induction before with
  | nil => exact occurs
  | cons c before ih => rw [List.cons_append, occursIn, ih, Bool.or_true]

theorem occursIn_of_not_mem {c : Char} {cs : List Char} (absent : c ∉ cs) (rest : List Char) :
    occursIn (c :: rest) cs = false := by
  induction cs with
  | nil => rfl
  | cons d cs ih =>
    have other : (c == d) = false := beq_eq_false_iff_ne.mpr fun same => absent (same ▸ List.mem_cons_self)
    have later := ih fun member => absent (List.mem_cons_of_mem d member)
    rw [occursIn, later, List.isPrefixOf, other]
    rfl

end Text

namespace Version

open Decimal (digits)

variable {v : Version}

theorem isDigit_of_decimal {c : Char} (digit : Decimal.isDigit c) : isDigit c := by
  obtain ⟨least, most⟩ := Decimal.isDigit_bounds digit
  refine List.any_eq_true.mpr ⟨0x30, by decide, ?_⟩
  rw [Bool.and_eq_true, decide_eq_true_eq, decide_eq_true_eq]
  exact ⟨least, Nat.lt_succ_of_le most⟩

theorem isDigit_of_mem_digits {n : Nat} : ∀ c ∈ digits n, isDigit c :=
  fun _ member => isDigit_of_decimal (Decimal.isDigit_of_mem_digits member)

theorem number?_digits (n : UInt32) : number? (digits n.toNat) = some n := by
  have unsigned : Decimal.natBelow? UInt32.size (digits n.toNat) = some n.toNat := by
    unfold Decimal.natBelow?
    split
    next plus =>
      have digit : Decimal.isDigit '+' := Decimal.isDigit_of_mem_digits (plus ▸ List.mem_cons_self)
      exact absurd digit (by decide)
    next =>
      simp only [Decimal.nat?_digits]
      exact if_pos n.toNat_lt
  rw [number?, unsigned, Option.map_some, UInt32.ofNat_toNat]

def numbers (v : Version) : List Char :=
  digits v.major.toNat ++ ['.'] ++ digits v.minor.toNat ++ ['.'] ++ digits v.patch.toNat

def flavour (v : Version) : List Char := if v.mariadb then "-MariaDB".toList else []

theorem chars_eq (v : Version) : v.chars = v.numbers ++ v.flavour := rfl

theorem mem_numbers {c : Char} (member : c ∈ v.numbers) : Decimal.isDigit c ∨ c = '.' := by
  simp only [numbers, List.mem_append, List.mem_singleton] at member
  rcases member with (((digit | point) | digit) | point) | digit
  · exact .inl (Decimal.isDigit_of_mem_digits digit)
  · exact .inr point
  · exact .inl (Decimal.isDigit_of_mem_digits digit)
  · exact .inr point
  · exact .inl (Decimal.isDigit_of_mem_digits digit)

theorem partsAtStart_append {major minor patch rest : List Char} (filled : major ≠ [] ∧ minor ≠ [] ∧ patch ≠ [])
    (majors : ∀ c ∈ major, isDigit c) (minors : ∀ c ∈ minor, isDigit c) (patches : ∀ c ∈ patch, isDigit c)
    (ends : ∀ c ∈ rest.head?, isDigit c = false) :
    partsAtStart (major ++ '.' :: (minor ++ '.' :: (patch ++ rest))) = some [major, minor, patch] := by
  have point : isDigit '.' = false := by decide
  have pointed (later : List Char) : ∀ c ∈ ('.' :: later).head?, isDigit c = false := by simp [point]
  have first := Json.spans majors (pointed (minor ++ '.' :: (patch ++ rest)))
  have second := Json.spans minors (pointed (patch ++ rest))
  have third := Json.spans patches ends
  obtain ⟨some, some', some''⟩ := filled
  obtain ⟨c, cs, rfl⟩ := List.exists_cons_of_ne_nil some
  obtain ⟨d, ds, rfl⟩ := List.exists_cons_of_ne_nil some'
  obtain ⟨e, es, rfl⟩ := List.exists_cons_of_ne_nil some''
  simp only [partsAtStart, first, second, third]

theorem partsAtStart_chars (v : Version) :
    partsAtStart v.chars = some [digits v.major.toNat, digits v.minor.toNat, digits v.patch.toNat] := by
  have ends : ∀ c ∈ v.flavour.head?, isDigit c = false := by
    unfold flavour
    split
    · intro c first
      cases first
      decide
    · exact nofun
  have chars : v.chars =
      digits v.major.toNat ++ '.' :: (digits v.minor.toNat ++ '.' :: (digits v.patch.toNat ++ v.flavour)) := by
    simp only [chars_eq, numbers, List.append_assoc, List.cons_append, List.nil_append]
  rw [chars]
  exact partsAtStart_append ⟨Decimal.digits_ne_nil _, Decimal.digits_ne_nil _, Decimal.digits_ne_nil _⟩
    isDigit_of_mem_digits isDigit_of_mem_digits isDigit_of_mem_digits ends

theorem toLower_of_isDigit {c : Char} (digit : Decimal.isDigit c) : c.toLower = c := by
  have most : c.val.toNat ≤ 57 := (Decimal.isDigit_bounds digit).2
  unfold Char.toLower
  split
  next upper =>
    have least : 65 ≤ c.val.toNat := upper.1
    omega
  next => rfl

theorem occursIn_chars (v : Version) : Text.occursIn "mariadb".toList (v.chars.map Char.toLower) = v.mariadb := by
  rw [chars_eq, flavour, List.map_append]
  cases v.mariadb with
  | true =>
    have named : Text.occursIn "mariadb".toList ("-MariaDB".toList.map Char.toLower) := by decide
    exact Text.occursIn_append named _
  | false =>
    have other : 'm' ∉ v.numbers.map Char.toLower := by
      intro member
      obtain ⟨c, inNumbers, lower⟩ := List.mem_map.mp member
      rcases mem_numbers inNumbers with digit | rfl
      · rw [toLower_of_isDigit digit] at lower
        rw [lower] at digit
        exact absurd digit (by decide)
      · exact absurd lower (by decide)
    rw [if_neg Bool.false_ne_true, List.map_nil, List.append_nil]
    exact Text.occursIn_of_not_mem other _

theorem findParts_chars (v : Version) :
    findParts v.chars = some [digits v.major.toNat, digits v.minor.toNat, digits v.patch.toNat] := by
  have starts := partsAtStart_chars v
  cases chars : v.chars with
  | nil =>
    rw [chars] at starts
    cases starts
  | cons c cs =>
    rw [chars] at starts
    rw [findParts, starts]
    rfl

/-- A text is read as the version that it holds once the version for the sake of replication is taken away. -/
theorem ofText?_of_chars {cs : List Char}
    (named : Text.occursIn "mariadb".toList (cs.map Char.toLower) = v.mariadb)
    (read : (if v.mariadb then withoutReplicationVersion cs else cs) = v.chars) :
    ofText? (String.ofList cs) = some v := by
  have flavour : Text.contains (Text.lowerAscii (String.ofList cs)) "mariadb" = v.mariadb := by
    rw [Text.contains, Text.lowerAscii]
    simpa only [String.toList_ofList] using named
  rw [ofText?, flavour, String.toList_ofList, read, findParts_chars]
  simp [number?_digits]

theorem eq_of_replication {rest : List Char} (starts : v.chars = '5' :: '.' :: '5' :: '.' :: '5' :: '-' :: rest)
    (named : v.mariadb) : v = ⟨5, 5, 5, true⟩ := by
  have five : digits 5 = ['5'] := by decide
  have digit : ∀ c ∈ ['5'], isDigit c := List.forall_mem_singleton.mpr (by decide)
  have read := partsAtStart_chars v
  have read' : partsAtStart (['5'] ++ '.' :: (['5'] ++ '.' :: (['5'] ++ '-' :: rest))) =
      some [['5'], ['5'], ['5']] :=
    partsAtStart_append (by simp) digit digit digit (by simp; decide)
  rw [starts] at read
  have same {n : UInt32} (digits_eq : ['5'] = digits n.toNat) : n = 5 := by
    have worth := congrArg Decimal.natOfDigits digits_eq
    rw [Decimal.natOfDigits_digits] at worth
    exact UInt32.toNat_inj.mp worth.symm
  obtain ⟨major, minor, patch⟩ : ['5'] = digits v.major.toNat ∧ ['5'] = digits v.minor.toNat ∧
      ['5'] = digits v.patch.toNat := by simpa using read'.symm.trans read
  obtain ⟨_, _, _, _⟩ := v
  cases same major
  cases same minor
  cases same patch
  cases named
  rfl

theorem withoutReplicationVersion_chars (named : v.mariadb) (other : v ≠ ⟨5, 5, 5, true⟩) :
    withoutReplicationVersion v.chars = v.chars := by
  unfold withoutReplicationVersion
  split
  next rest starts => exact absurd (eq_of_replication starts named) other
  next => rfl

/-- Every version is read from its text but the one that MariaDB puts in front of its own, and every version of MariaDB
is read with that in front. -/
theorem text_reads_back_iff (v : Version) :
    (ofText? v.text = some v ↔ v ≠ ⟨5, 5, 5, true⟩) ∧
      (v.mariadb = true → ofText? ("5.5.5-" ++ v.text) = some v) := by
  refine ⟨⟨?_, fun other => ofText?_of_chars (occursIn_chars v) ?_⟩, fun named => ?_⟩
  · rintro read rfl
    have none : ofText? (text ⟨5, 5, 5, true⟩) = none := by decide
    rw [none] at read
    cases read
  · split
    next named => exact withoutReplicationVersion_chars named other
    next => rfl
  · have banner : "5.5.5-" ++ v.text = String.ofList ("5.5.5-".toList ++ v.chars) := by
      rw [String.ofList_append, String.ofList_toList, text]
    have occurs : Text.occursIn "mariadb".toList (v.chars.map Char.toLower) := by rw [occursIn_chars, named]
    rw [banner]
    refine ofText?_of_chars ?_ ?_
    · rw [List.map_append, named]
      exact Text.occursIn_append occurs _
    · rw [if_pos named]
      rfl

/-- A version of MariaDB that is read with and without the version in front. -/
theorem tenEleven_reads_back :
    ofText? (text ⟨10, 11, 6, true⟩) = some ⟨10, 11, 6, true⟩ ∧
      ofText? ("5.5.5-" ++ text ⟨10, 11, 6, true⟩) = some ⟨10, 11, 6, true⟩ :=
  have ⟨alone, banner⟩ := text_reads_back_iff ⟨10, 11, 6, true⟩
  ⟨alone.mpr (by decide), banner rfl⟩

/-- What is written of this version is passed over as the version for the sake of replication. -/
theorem fiveFiveFive_unread : text ⟨5, 5, 5, true⟩ = "5.5.5-MariaDB" ∧ ofText? "5.5.5-MariaDB" = none := by
  decide

end Version

end SqlCompiler
