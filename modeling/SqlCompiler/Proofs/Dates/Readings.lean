import Mathlib.Algebra.Group.Nat.Defs
import Mathlib.Data.List.TakeWhile
import SqlCompiler.Calendar.Reading
import SqlCompiler.Proofs.Documents.Numbers

namespace SqlCompiler

open Decimal (isDigit natOfDigits digits)

namespace Text

theorem trimEnd_eq_self {cs : List Char} (visible : ∀ c ∈ cs, isBlank c = false) : trimEnd cs = cs := by
  induction cs with
  | nil => rfl
  | cons c cs ih =>
    obtain ⟨first, later⟩ := List.forall_mem_cons.mp visible
    rw [trimEnd, ih later]
    cases cs with
    | nil => simp [first]
    | cons d cs => rfl

theorem trimStart_cons {c : Char} (visible : isBlank c = false) (cs : List Char) : trimStart (c :: cs) = c :: cs :=
  List.dropWhile_cons_of_neg (by simp [visible])

theorem trim_eq_self {cs : List Char} (visible : ∀ c ∈ cs, isBlank c = false) : trim cs = cs := by
  cases cs with
  | nil => rfl
  | cons c cs => rw [trim, trimStart_cons (visible c List.mem_cons_self), trimEnd_eq_self visible]

end Text

theorem Decimal.not_isBlank_of_isDigit {c : Char} (digit : isDigit c) : Text.isBlank c = false := by
  have bounds := Decimal.isDigit_bounds digit
  simp only [Text.isBlank, Bool.or_eq_false_iff, Bool.and_eq_false_iff, decide_eq_false_iff_not, beq_eq_false_iff_ne]
  omega

section padded

variable {width n : Nat}

theorem isDigit_of_mem_padded {c : Char} (member : c ∈ padded width n) : isDigit c := by
  rcases List.mem_append.mp member with zero | digit
  · rw [List.eq_of_mem_replicate zero]
    decide
  · exact Decimal.isDigit_of_mem_digits digit

theorem natOfDigits_padded (width n : Nat) : natOfDigits (padded width n) = n := by
  have zeros (k : Nat) : natOfDigits (List.replicate k '0' ++ digits n) = n := by
    induction k with
    | zero => exact Decimal.natOfDigits_digits n
    | succ k ih => exact ih
  exact zeros _

theorem length_padded (positive : 0 < width) (fits : n < 10 ^ width) : (padded width n).length = width := by
  have short : (digits n).length ≤ width := (Nat.length_toDigits_le_iff (by decide) positive).mpr fits
  rw [padded, List.length_append, List.length_replicate]
  omega

theorem padded_ne_nil (width n : Nat) : padded width n ≠ [] :=
  List.append_ne_nil_of_right_ne_nil _ (Decimal.digits_ne_nil n)

theorem trimStart_padded (width n : Nat) (rest : List Char) :
    Text.trimStart (padded width n ++ rest) = padded width n ++ rest := by
  obtain ⟨c, ds, starts⟩ := List.exists_cons_of_ne_nil (padded_ne_nil width n)
  have digit : isDigit c := isDigit_of_mem_padded (starts ▸ List.mem_cons_self)
  rw [starts]
  exact Text.trimStart_cons (Decimal.not_isBlank_of_isDigit digit) _

end padded

/-- The second that a time shows, from its start; the sixtieth second is shown for the one before it. -/
def Time.shownStart (t : Time) : Time :=
  { t.wholeSecond with second := min t.shownSecond 59, second_lt := by omega }

namespace Calendar

theorem number_append {least most : Nat} {ds : List Char} (all : ∀ c ∈ ds, isDigit c) (enough : least ≤ ds.length)
    (room : ds.length ≤ most) {rest : List Char} (ends : ds.length = most ∨ ∀ c ∈ rest.head?, isDigit c = false) :
    number least most (ds ++ rest) = some (natOfDigits ds, rest) := by
  have behind : ((rest.take (most - ds.length)).takeWhile isDigit) = [] := by
    rcases ends with full | apart
    · simp [full]
    · cases rest with
      | nil => simp
      | cons c rest =>
        have other : isDigit c = false := apart c rfl
        cases most - ds.length <;> simp [other]
  have read : ((ds ++ rest).take most).takeWhile isDigit = ds := by
    rw [List.take_append, List.take_of_length_le room, List.takeWhile_append_of_pos all, behind, List.append_nil]
  rw [number, read]
  simp [Nat.not_lt.mpr enough]

theorem number_padded {least width n : Nat} (positive : 0 < width) (enough : least ≤ width) (fits : n < 10 ^ width)
    (rest : List Char) : number least width (padded width n ++ rest) = some (n, rest) := by
  have length := length_padded positive fits
  rw [number_append (fun _ => isDigit_of_mem_padded) (by omega) (by omega) (.inl length), natOfDigits_padded]

theorem field_padded {n : Nat} (fits : n < 100) (rest : List Char) : field (padded 2 n ++ rest) = some (n, rest) := by
  change number 1 2 (Text.trimStart (padded 2 n ++ rest)) = _
  rw [trimStart_padded, number_padded (by decide) (by decide) fits]

theorem anyNumber_padded (width n : Nat) {rest : List Char} (ends : ∀ c ∈ rest.head?, isDigit c = false) :
    anyNumber (padded width n ++ rest) = some (n, rest) := by
  have some : 0 < (padded width n).length := List.length_pos_iff.mpr (padded_ne_nil width n)
  rw [anyNumber, number_append (fun _ => isDigit_of_mem_padded) some (by simp) (.inr ends), natOfDigits_padded]

theorem year_yearText (y : Int) {rest : List Char} (ends : ∀ c ∈ rest.head?, isDigit c = false) :
    year (yearText y ++ rest) = some (y, rest) := by
  unfold yearText
  split
  next plain =>
    have read : number 1 4 (padded 4 y.toNat ++ rest) = some (y.toNat, rest) :=
      number_padded (by decide) (by decide) (by omega) rest
    obtain ⟨c, ds, starts⟩ := List.exists_cons_of_ne_nil (padded_ne_nil 4 y.toNat)
    have digit : isDigit c := isDigit_of_mem_padded (starts ▸ List.mem_cons_self)
    unfold year
    rw [trimStart_padded]
    rw [starts] at read ⊢
    split
    next minus =>
      cases minus
      exact absurd digit (by decide)
    next plus =>
      cases plus
      exact absurd digit (by decide)
    next =>
      rw [read]
      simp [Int.toNat_of_nonneg plain.1]
  next signed =>
    rw [List.cons_append]
    split
    next negative =>
      have apart : Text.trimStart ('-' :: (padded 4 y.natAbs ++ rest)) = '-' :: (padded 4 y.natAbs ++ rest) :=
        Text.trimStart_cons (by decide) _
      have same : -(y.natAbs : Int) = y := by omega
      simp only [year, apart, anyNumber_padded 4 y.natAbs ends, Option.map_some, same]
    next positive =>
      have apart : Text.trimStart ('+' :: (padded 4 y.natAbs ++ rest)) = '+' :: (padded 4 y.natAbs ++ rest) :=
        Text.trimStart_cons (by decide) _
      have same : (y.natAbs : Int) = y := by omega
      simp only [year, apart, anyNumber_padded 4 y.natAbs ends, Option.map_some, same]

theorem bind_of_some {α β : Type} {x : Scan α} {f : α → Scan β} {cs rest : List Char} {a : α}
    (read : x cs = some (a, rest)) : (x >>= f) cs = f a rest := by
  change (x cs).bind _ = _
  rw [read]
  rfl

theorem bind_of_none {α β : Type} {x : Scan α} {f : α → Scan β} {cs : List Char} (none : x cs = none) :
    (x >>= f) cs = .none := by
  change (x cs).bind _ = _
  rw [none]
  rfl

theorem literal_cons (c : Char) (rest : List Char) : literal c (c :: rest) = some ((), rest) := if_pos rfl

theorem of?_eq (d : Date) : Date.of? d.year d.month d.day = some d := by
  rw [Date.of?, dif_pos d.year_mem, dif_pos d.month_mem, dif_pos d.day_mem]

theorem month_lt (d : Date) : d.month < 100 := by
  have := d.month_mem
  omega

theorem day_lt (d : Date) : d.day < 100 := by
  have last : d.day ≤ daysInMonth d.year d.month := d.day_mem.2
  have most : daysInMonth d.year d.month ≤ 31 := by
    unfold daysInMonth
    split
    · split <;> decide
    · split <;> decide
  omega

theorem date_chars (d : Date) (rest : List Char) : date (d.chars ++ rest) = some (d, rest) := by
  have chars : d.chars ++ rest =
      yearText d.year ++ '-' :: (padded 2 d.month ++ '-' :: (padded 2 d.day ++ rest)) := by
    simp [Date.chars]
  have dash : isDigit '-' = false := by decide
  rw [chars, date, bind_of_some (year_yearText d.year (by simp [dash])), bind_of_some (literal_cons _ _),
    bind_of_some (field_padded (month_lt d) _), bind_of_some (literal_cons _ _),
    bind_of_some (field_padded (day_lt d) _), of?_eq]
  rfl

theorem shownSecond_le (t : Time) : t.shownSecond ≤ 60 := by
  have := t.second_lt
  unfold Time.shownSecond
  split <;> omega

theorem timeOf?_shown (t : Time) :
    (timeOf? t.hour t.minute t.shownSecond 0).map Time.wholeSecond = some t.shownStart := by
  have hour := t.hour_lt
  have minute := t.minute_lt
  have shown := shownSecond_le t
  unfold timeOf?
  split
  next last =>
    have second : min t.shownSecond 59 = 59 := by omega
    rw [Time.of?, dif_pos ⟨hour, minute, by decide, by decide⟩]
    simp [Time.wholeSecond, Time.shownStart, second]
  next within =>
    have second : min t.shownSecond 59 = t.shownSecond := by omega
    rw [Time.of?, dif_pos ⟨hour, minute, by omega, by decide⟩]
    simp [Time.wholeSecond, Time.shownStart, second]

theorem clock_chars (t : Time) : clock false t.chars = (timeOf? t.hour t.minute t.shownSecond 0).map (·, []) := by
  have chars : t.chars = padded 2 t.hour ++ ':' :: (padded 2 t.minute ++ ':' :: (padded 2 t.shownSecond ++ [])) := by
    simp [Time.chars]
  have hour : t.hour < 100 := Nat.lt_trans t.hour_lt (by decide)
  have minute : t.minute < 100 := Nat.lt_trans t.minute_lt (by decide)
  have shown : t.shownSecond < 100 := Nat.lt_of_le_of_lt (shownSecond_le t) (by decide)
  rw [chars, clock, bind_of_some (field_padded hour _), bind_of_some (literal_cons _ _),
    bind_of_some (field_padded minute _), bind_of_some (literal_cons _ _), bind_of_some (field_padded shown _)]
  change (timeOf? t.hour t.minute t.shownSecond 0).bind _ = _
  cases timeOf? t.hour t.minute t.shownSecond 0 <;> rfl

theorem date_visible (d : Date) : ∀ c ∈ d.chars, Text.isBlank c = false := by
  have digits {width n : Nat} : ∀ c ∈ padded width n, Text.isBlank c = false :=
    fun _ member => Decimal.not_isBlank_of_isDigit (isDigit_of_mem_padded member)
  have dash : ∀ c ∈ ['-'], Text.isBlank c = false := List.forall_mem_singleton.mpr (by decide)
  have year : ∀ c ∈ yearText d.year, Text.isBlank c = false := by
    unfold yearText
    split
    · exact digits
    · exact List.forall_mem_cons.mpr ⟨by split <;> decide, digits⟩
  simp only [Date.chars, List.forall_mem_append]
  exact ⟨⟨⟨⟨year, dash⟩, digits⟩, dash⟩, digits⟩

theorem time_visible (t : Time) : ∀ c ∈ t.chars, Text.isBlank c = false := by
  have digits {width n : Nat} : ∀ c ∈ padded width n, Text.isBlank c = false :=
    fun _ member => Decimal.not_isBlank_of_isDigit (isDigit_of_mem_padded member)
  have colon : ∀ c ∈ [':'], Text.isBlank c = false := List.forall_mem_singleton.mpr (by decide)
  simp only [Time.chars, List.forall_mem_append]
  exact ⟨⟨⟨⟨digits, colon⟩, digits⟩, colon⟩, digits⟩

theorem dateTime?_date (d : Date) : dateTime? d.text = none := by
  have whole : Text.trim d.text.toList = d.chars := by
    rw [Date.text, String.toList_ofList, Text.trim_eq_self (date_visible d)]
  have read : date d.chars = some (d, []) := by simpa using date_chars d []
  have spaced (withFraction : Bool) : spacedDateTime withFraction d.chars = none := by
    rw [spacedDateTime, bind_of_some read]
    rfl
  have lettered : letteredDateTime d.chars = none := by
    rw [letteredDateTime, bind_of_some read]
    rfl
  have exchanged : Calendar.exchanged d.chars = none := by
    have two {n : Nat} (fits : n < 100) (rest : List Char) : number 2 2 (padded 2 n ++ rest) = some (n, rest) :=
      number_padded (by decide) (by decide) fits rest
    have chars : d.chars = yearText d.year ++ '-' :: (padded 2 d.month ++ '-' :: (padded 2 d.day ++ [])) := by
      simp [Date.chars]
    rw [chars, Calendar.exchanged]
    unfold yearText
    split
    next plain =>
      have year (rest : List Char) : number 4 4 (padded 4 d.year.toNat ++ rest) = some (d.year.toNat, rest) :=
        number_padded (by decide) (by decide) (by omega) rest
      rw [bind_of_some (year _), bind_of_some (literal_cons _ _), bind_of_some (two (month_lt d) _),
        bind_of_some (literal_cons _ _), bind_of_some (two (day_lt d) _)]
      rfl
    next signed =>
      apply bind_of_none
      split <;> rfl
  simp [dateTime?, whole, complete, spaced, lettered, exchanged]

theorem date?_text (d : Date) : date? d.text = some d := by
  have whole : Text.trim d.text.toList = d.chars := by
    rw [Date.text, String.toList_ofList, Text.trim_eq_self (date_visible d)]
  have read : date d.chars = some (d, []) := by simpa using date_chars d []
  simp [date?, dateTime?_date, whole, complete, read]

theorem time?_text (t : Time) : time? t.text = some t.shownStart := by
  have whole : Text.trim t.text.toList = t.chars := by
    rw [Time.text, String.toList_ofList, Text.trim_eq_self (time_visible t)]
  have shown := timeOf?_shown t
  cases read : timeOf? t.hour t.minute t.shownSecond 0 with
  | none => simp [read] at shown
  | some start =>
    have clocked : clock false t.chars = some (start, []) := by rw [clock_chars, read]; rfl
    rw [read] at shown
    simpa [time?, whole, complete, clocked] using shown

end Calendar

end SqlCompiler
