import Mathlib.Data.List.Basic
import SqlCompiler.Proofs.Dates.Readings
import SqlCompiler.Query.DatePart

namespace SqlCompiler

open Decimal (isDigit natOfDigits)

def Operand.IsTwoDigits (low high : Nat) (o : Operand) : Prop :=
  ∃ tens ones, o = .value (.text (String.ofList [tens, ones])) ∧ isDigit tens ∧ isDigit ones ∧
    low ≤ natOfDigits [tens, ones] ∧ natOfDigits [tens, ones] ≤ high

theorem Operand.isTwoDigits_padded {low high n : Nat} (least : low ≤ n) (most : n ≤ high) (fits : n < 100) :
    Operand.IsTwoDigits low high (.value (.text (String.ofList (padded 2 n)))) := by
  have width : (padded 2 n).length = 2 := length_padded (by decide) fits
  obtain ⟨tens, ones, two⟩ := List.length_eq_two.mp width
  have worth : natOfDigits [tens, ones] = n := two ▸ natOfDigits_padded 2 n
  have all : ∀ c ∈ [tens, ones], isDigit c := two ▸ fun _ member => isDigit_of_mem_padded member
  rw [two]
  exact ⟨tens, ones, rfl, all tens (by simp), all ones (by simp), worth.symm ▸ least, worth.symm ▸ most⟩

theorem int64?_padded {n : Nat} (fits : n < 100) :
    Decimal.int64? (Text.strip (String.ofList (padded 2 n))) = some (Int64.ofInt n) := by
  have visible : ∀ c ∈ padded 2 n, Text.isBlank c = false :=
    fun _ member => Decimal.not_isBlank_of_isDigit (isDigit_of_mem_padded member)
  have all : (padded 2 n).all isDigit := List.all_eq_true.mpr fun _ member => isDigit_of_mem_padded member
  have whole : Decimal.nat? (padded 2 n) = some n := by
    rw [Decimal.nat?, if_pos ⟨padded_ne_nil 2 n, all⟩, natOfDigits_padded]
  have unsigned : Decimal.int? (padded 2 n) = some (n : Int) := by
    obtain ⟨c, ds, starts⟩ := List.exists_cons_of_ne_nil (padded_ne_nil 2 n)
    have digit : isDigit c := isDigit_of_mem_padded (starts ▸ List.mem_cons_self)
    rw [starts] at whole ⊢
    unfold Decimal.int?
    split
    next minus =>
      cases minus
      exact absurd digit (by decide)
    next plus =>
      cases plus
      exact absurd digit (by decide)
    next =>
      rw [whole]
      rfl
  have least : Int64.minValue.toInt = -9223372036854775808 := by decide
  have most : Int64.maxValue.toInt = 9223372036854775807 := by decide
  rw [Decimal.int64?, Text.strip, String.toList_ofList, String.toList_ofList, Text.trim_eq_self visible, unsigned]
  exact if_pos ⟨by omega, by omega⟩

/-- A leap second that follows the last second of a minute. -/
def Time.EndsMinute (t : Time) : Prop := t.second = 59 ∧ 1000000000 ≤ t.nanos

theorem Time.shownSecond_eq_sixty_iff {t : Time} : t.shownSecond = 60 ↔ t.EndsMinute := by
  have := t.second_lt
  unfold Time.shownSecond Time.EndsMinute
  split <;> omega

theorem Time.text_shownStart_iff {t : Time} : t.shownStart.text = t.text ↔ ¬ t.EndsMinute := by
  rw [← Time.shownSecond_eq_sixty_iff]
  have shown := Calendar.shownSecond_le t
  have second : t.shownStart.shownSecond = min t.shownSecond 59 := rfl
  constructor
  · intro same
    have chars : t.shownStart.chars = t.chars := String.ofList_injective same
    have digits : padded 2 t.shownStart.shownSecond = padded 2 t.shownSecond := List.append_cancel_left chars
    have seconds := congrArg natOfDigits digits
    rw [natOfDigits_padded, natOfDigits_padded] at seconds
    omega
  · intro within
    have seconds : t.shownStart.shownSecond = t.shownSecond := by omega
    rw [Time.text, Time.text, Time.chars, Time.chars, seconds]
    rfl

theorem Calendar.time?_nanos {s : String} {t : Time} (read : time? s = some t) : t.nanos = 0 := by
  obtain ⟨u, -, rfl⟩ := Option.map_eq_some_iff.mp read
  rfl

namespace DatePart

variable {part : DatePart}

/-- The values in the form that they are compared in. -/
def Normal : DatePart → Value → Prop
  | .date, w => ∃ d : Date, w = .text d.text
  | .time, w => ∃ t : Time, w = .text t.text
  | .day, w => ∃ n, 1 ≤ n ∧ n ≤ 31 ∧ w = .text (String.ofList (padded 2 n))
  | .month, w => ∃ n, 1 ≤ n ∧ n ≤ 12 ∧ w = .text (String.ofList (padded 2 n))
  | .year, w => ∃ n, w = .int n

theorem twoDigits_normal {low high : Nat} {n : Int} {w : Value} (reached : part.twoDigits low high n = .ok w) :
    ∃ k : Nat, low ≤ k ∧ k ≤ high ∧ w = .text (String.ofList (padded 2 k)) := by
  unfold twoDigits at reached
  split at reached
  next within =>
    cases reached
    exact ⟨n.toNat, by omega, by omega, rfl⟩
  next => cases reached

theorem twoDigits_padded {low high n : Nat} (least : low ≤ n) (most : n ≤ high) (fits : n < 100) :
    (do part.twoDigits low high (← part.numberOf (.text (String.ofList (padded 2 n)))).toInt) =
      .ok (.text (String.ofList (padded 2 n))) := by
  have number : part.numberOf (.text (String.ofList (padded 2 n))) = .ok (Int64.ofInt n) := by
    rw [numberOf, int64?_padded fits]
  have least' : Int64.minValue.toInt = -9223372036854775808 := by decide
  have most' : Int64.maxValue.toInt = 9223372036854775807 := by decide
  have worth : (Int64.ofInt n).toInt = n := Int64.toInt_ofInt_of_le (by omega) (by omega)
  rw [number]
  change part.twoDigits low high (Int64.ofInt n).toInt = _
  rw [worth, twoDigits, if_pos ⟨by omega, by omega⟩, Int.toNat_natCast]

theorem normalizeValue_normal {v w : Value} (reached : part.normalizeValue v = .ok w) : part.Normal w := by
  cases part with
  | date =>
    obtain ⟨d, -, same⟩ := ok_of_map reached
    exact ⟨d, same.symm⟩
  | time =>
    obtain ⟨t, -, same⟩ := ok_of_map reached
    exact ⟨t, same.symm⟩
  | day =>
    cases v with
    | date d => exact twoDigits_normal reached
    | dateTime t => exact twoDigits_normal reached
    | _ =>
      obtain ⟨n, -, within⟩ := ok_of_bind reached
      exact twoDigits_normal within
  | month =>
    cases v with
    | date d => exact twoDigits_normal reached
    | dateTime t => exact twoDigits_normal reached
    | _ =>
      obtain ⟨n, -, within⟩ := ok_of_bind reached
      exact twoDigits_normal within
  | year =>
    cases v with
    | date d => exact ⟨_, (Except.ok.inj reached).symm⟩
    | dateTime t => exact ⟨_, (Except.ok.inj reached).symm⟩
    | _ =>
      obtain ⟨n, -, same⟩ := ok_of_map reached
      exact ⟨n, same.symm⟩

theorem normalizeValue_time (t : Time) :
    normalizeValue .time (.text t.text) = .ok (.text t.shownStart.text) := by
  have read : timeOf .time (.text t.text) = .ok t.shownStart := by rw [timeOf, Calendar.time?_text]
  rw [normalizeValue, read]
  rfl

theorem normalizeValue_of_normal {w : Value} (normal : part.Normal w) (dated : part ≠ .time) :
    part.normalizeValue w = .ok w := by
  cases part with
  | date =>
    obtain ⟨d, rfl⟩ := normal
    have read : dateOf .date (.text d.text) = .ok d := by rw [dateOf, Calendar.date?_text]
    rw [normalizeValue, read]
    rfl
  | time => exact absurd rfl dated
  | day =>
    obtain ⟨n, least, most, rfl⟩ := normal
    exact twoDigits_padded least most (by omega)
  | month =>
    obtain ⟨n, least, most, rfl⟩ := normal
    exact twoDigits_padded least most (by omega)
  | year =>
    obtain ⟨n, rfl⟩ := normal
    rfl

theorem ok_text_inj {s s' : String} :
    (.ok (.text s) : Except Error Value) = .ok (.text s') ↔ s = s' := by
  simp

/-- A time is its own form once it has been read from a text, and any other but at the end of a minute. -/
theorem normalizeValue_time_iff {v w : Value} (reached : normalizeValue .time v = .ok w) :
    normalizeValue .time w = .ok w ↔ ¬ ∃ t : DateTime, v = .dateTime t ∧ t.time.EndsMinute := by
  obtain ⟨u, found, rfl⟩ := ok_of_map reached
  rw [normalizeValue_time, ok_text_inj, Time.text_shownStart_iff, not_iff_not]
  cases v with
  | dateTime t =>
    cases found
    exact ⟨fun ends => ⟨t, rfl, ends⟩, fun ⟨_, same, ends⟩ => by cases same; exact ends⟩
  | text s =>
    have start : u.nanos = 0 := by
      cases read : Calendar.time? s with
      | none => simp [timeOf, read, unreadable] at found
      | some t =>
        simp only [timeOf, read, Except.ok.injEq] at found
        exact found ▸ Calendar.time?_nanos read
    have whole : ¬ u.EndsMinute := fun ends => absurd ends.2 (by omega)
    exact ⟨fun ends => absurd ends whole, fun ⟨_, other, _⟩ => nomatch other⟩
  | _ => cases found

theorem normalizeValue_shownStart (t : Time) :
    normalizeValue .time (.text t.shownStart.text) = .ok (.text t.shownStart.text) := by
  have whole : ¬ t.shownStart.EndsMinute := fun ends => absurd (show 1000000000 ≤ 0 from ends.2) (by decide)
  rw [normalizeValue_time, Time.text_shownStart_iff.mpr whole]

theorem normalize_value_iff {v w : Value} :
    part.normalize (.value v) = .ok (.value w) ↔ part.normalizeValue v = .ok w := by
  constructor
  · intro reached
    obtain ⟨form, found, same⟩ := ok_of_map reached
    cases same
    exact found
  · intro found
    rw [normalize, found]
    rfl

/-- What a value is brought into stays as it is when it is brought into its form once more, unless the value is a time
within a leap second that ends a minute; then the second step is the last that changes it. Days and months have two
digits. -/
theorem normalize_idempotent_iff (part : DatePart) {o w : Operand} (reached : part.normalize o = .ok w) :
    (part.normalize w = .ok w ↔
      ¬ (part = .time ∧ ∃ t : DateTime, o = .value (.dateTime t) ∧ t.time.EndsMinute)) ∧
    (∃ settled, part.normalize w = .ok settled ∧ part.normalize settled = .ok settled) ∧
    ∀ v, o = .value v → (part = .day → w.IsTwoDigits 1 31) ∧ (part = .month → w.IsTwoDigits 1 12) := by
  cases o with
  | raw sql =>
    cases reached
    have kept : part.normalize (.raw sql) = .ok (.raw sql) := rfl
    exact ⟨⟨fun _ ⟨_, _, other, _⟩ => (nomatch other), fun _ => kept⟩, ⟨_, kept, kept⟩, nofun⟩
  | value v =>
    obtain ⟨form, found, rfl⟩ := ok_of_map reached
    have normal := normalizeValue_normal found
    have digits : (part = .day → Operand.IsTwoDigits 1 31 (.value form)) ∧
        (part = .month → Operand.IsTwoDigits 1 12 (.value form)) := by
      constructor <;> rintro rfl <;> obtain ⟨n, least, most, rfl⟩ := normal <;>
        exact Operand.isTwoDigits_padded least most (by omega)
    by_cases timed : part = .time
    · subst timed
      have exactly := normalizeValue_time_iff found
      obtain ⟨t, rfl⟩ := normal
      refine ⟨?_, ⟨_, normalize_value_iff.mpr (normalizeValue_time t),
        normalize_value_iff.mpr (normalizeValue_shownStart t)⟩, fun _ _ => digits⟩
      rw [normalize_value_iff, exactly]
      simp
    · have kept := normalize_value_iff.mpr (normalizeValue_of_normal normal timed)
      exact ⟨⟨fun _ both => timed both.1, fun _ => kept⟩, ⟨_, kept, kept⟩, fun _ _ => digits⟩

def ides : Date := ⟨-44, 3, 15, by decide, by decide, by decide⟩

theorem ides_idempotent :
    DatePart.date.normalize (.value (.date ides)) = .ok (.value (.text "-0044-03-15")) ∧
    DatePart.date.normalize (.value (.text "-0044-03-15")) = .ok (.value (.text "-0044-03-15")) := by
  have reached : DatePart.date.normalize (.value (.date ides)) = .ok (.value (.text "-0044-03-15")) := rfl
  exact ⟨reached, (normalize_idempotent_iff .date reached).1.mpr fun timed => nomatch timed.1⟩

def newYear : DateTime :=
  ⟨⟨2016, 12, 31, by decide, by decide, by decide⟩,
    ⟨23, 59, 59, 1500000000, by decide, by decide, by decide, by decide⟩⟩

/-- It is written with second 60, and what is written is read as the second before. -/
theorem newYear_unsettled :
    DatePart.time.normalize (.value (.dateTime newYear)) = .ok (.value (.text "23:59:60")) ∧
    DatePart.time.normalize (.value (.text "23:59:60")) = .ok (.value (.text "23:59:59")) :=
  ⟨rfl, rfl⟩

end DatePart

end SqlCompiler
