import Mathlib.Algebra.Order.Field.Rat
import SqlCompiler.Catalog.Answer
import SqlCompiler.Proofs.Documents.Numbers

namespace SqlCompiler

namespace Decimal

def Binary.worth (b : Binary) : ℚ := b.mantissa * 2 ^ b.exponent

theorem Binary.worth_eq_div (b : Binary) : b.worth = b.numerator / b.denominator := by
  have power (n : Nat) : ((Nat.pow 2 n : Nat) : ℚ) = 2 ^ n := Nat.cast_pow 2 n
  rw [worth, numerator, denominator, Nat.cast_mul, power, power, mul_div_assoc]
  congr 1
  rcases Int.le_total 0 b.exponent with large | small
  · obtain ⟨n, same⟩ := Int.eq_ofNat_of_zero_le large
    simp [same]
  · obtain ⟨n, same⟩ := Int.eq_ofNat_of_zero_le (Int.neg_nonneg_of_nonpos small)
    have negated : b.exponent = -(n : Int) := by omega
    simp [negated]

theorem Binary.denominator_pos (b : Binary) : 0 < b.denominator := Nat.pow_pos (by decide)

theorem Binary.numerator_eq {b : Binary} {k : Int} (whole : b.worth = k) : (b.numerator : Int) = k * b.denominator := by
  have positive : (b.denominator : ℚ) ≠ 0 := Nat.cast_ne_zero.mpr b.denominator_pos.ne'
  rw [worth_eq_div, div_eq_iff positive] at whole
  exact_mod_cast whole

theorem Binary.quotient_eq {b : Binary} {k : Int} (whole : b.worth = k) :
    ((b.numerator / b.denominator : Nat) : Int) = k := by
  have positive : (b.denominator : Int) ≠ 0 := Int.natCast_ne_zero.mpr b.denominator_pos.ne'
  rw [Int.natCast_ediv, numerator_eq whole, Int.mul_ediv_cancel k positive]

/-- The number that a double stands for; there is none for the infinities and for what is no number. -/
def worth? (x : Float) : Option ℚ :=
  if x.isFinite then some (if isNegative x then -(magnitudeOf x).worth else (magnitudeOf x).worth) else none

theorem worth?_eq_some_iff {x : Float} {r : ℚ} : worth? x = some r ↔
    x.isFinite ∧ (magnitudeOf x).worth = if isNegative x then -r else r := by
  unfold worth?
  split <;> rename_i finite <;> split <;> simp [finite, neg_eq_iff_eq_neg]

theorem cut_eq_of_worth {x : Float} {k : Int} (whole : worth? x = some (k : ℚ)) : cut x = k := by
  obtain ⟨-, magnitude⟩ := worth?_eq_some_iff.mp whole
  unfold cut
  dsimp only
  split at magnitude <;> rename_i negative
  · rw [if_pos negative, Binary.quotient_eq (k := -k) (by rw [magnitude, Int.cast_neg]), Int.neg_neg]
  · rw [if_neg negative, Binary.quotient_eq magnitude]

theorem isWhole_of_worth {x : Float} {k : Int} (whole : worth? x = some (k : ℚ)) : isWhole x := by
  obtain ⟨-, magnitude⟩ := worth?_eq_some_iff.mp whole
  have divides : (magnitudeOf x).denominator ∣ (magnitudeOf x).numerator := by
    apply Int.natCast_dvd_natCast.mp
    split at magnitude
    · exact Dvd.intro_left (-k) (Binary.numerator_eq (by rw [magnitude, Int.cast_neg])).symm
    · exact Dvd.intro_left k (Binary.numerator_eq magnitude).symm
  exact beq_iff_eq.mpr (Nat.mod_eq_zero_of_dvd divides)

theorem ofIntClamp_toInt (n : Int64) : Int64.ofIntClamp n.toInt = n := by
  have fits : Int64.minValue.toInt ≤ n.toInt ∧ n.toInt ≤ Int64.maxValue.toInt :=
    ⟨Int64.minValue_le_toInt n, Int64.toInt_le n⟩
  rw [Int64.ofIntClamp, dif_pos fits.1, dif_pos fits.2, Int64.ofIntLE_eq_ofInt, Int64.ofInt_toInt]

theorem toInt64_eq_of_worth {x : Float} {n : Int64} (whole : worth? x = some (n.toInt : ℚ)) : toInt64 x = n := by
  have finite : x.isFinite := (worth?_eq_some_iff.mp whole).1
  rw [toInt64, (Json.finite_float finite).1, if_neg Bool.false_ne_true, cut_eq_of_worth whole, ofIntClamp_toInt]

def Written.worth (w : Written) : ℚ := (if w.negative then -1 else 1) * w.coefficient * 10 ^ w.exponent

def written? (s : String) : Option Written :=
  let (negative, cs) := splitSign s.toList
  unsigned? negative cs

theorem written?_of_float? {s : String} (unread : float? s = none) : written? s = none := by
  unfold float? at unread
  dsimp only at unread
  split at unread
  · cases unread
  · exact Option.map_eq_none_iff.mp unread

theorem unsigned?_of_nat? {ds : List Char} {n : Nat} (whole : nat? ds = some n) (negative : Bool) :
    unsigned? negative ds = some ⟨negative, n, 0⟩ := by
  unfold nat? at whole
  split at whole
  next digits =>
    have all : ∀ d ∈ ds, isDigit d := List.all_eq_true.mp digits.2
    cases whole
    rw [unsigned?, List.takeWhile_eq_self_iff.mpr all, List.dropWhile_eq_nil_iff.mpr all]
    simp [digits.1, exponent?]
  next => cases whole

theorem int?_eq_splitSign (cs : List Char) :
    int? cs = (nat? (splitSign cs).2).map fun m : Nat => if (splitSign cs).1 then -(m : Int) else m := by
  unfold int? splitSign
  split <;> cases nat? _ <;> simp

theorem written?_of_int? {s : String} {n : Int} (whole : int? s.toList = some n) :
    (written? s).map Written.worth = some (n : ℚ) := by
  rw [int?_eq_splitSign] at whole
  obtain ⟨m, digits, rfl⟩ := Option.map_eq_some_iff.mp whole
  have read : written? s = some ⟨(splitSign s.toList).1, m, 0⟩ := unsigned?_of_nat? digits _
  rw [read]
  cases (splitSign s.toList).1 <;> simp [Written.worth]

theorem written?_of_int64? {s : String} {n : Int64} (whole : int64? s = some n) :
    (written? s).map Written.worth = some (n.toInt : ℚ) := by
  unfold int64? at whole
  split at whole
  next k found =>
    split at whole
    next fits =>
      cases whole
      have least : Int64.minValue.toInt = -9223372036854775808 := by decide
      have most : Int64.maxValue.toInt = 9223372036854775807 := by decide
      rw [written?_of_int? found, Int64.toInt_ofInt_of_le (by omega) (by omega)]
    next => cases whole
  next => cases whole

end Decimal

namespace Value

def worth? : Value → Option ℚ
  | .int n => some n.toInt
  | .bool b => some (if b then 1 else 0)
  | .float x => Decimal.worth? x
  | .text s => (Decimal.written? (Text.strip s)).map Decimal.Written.worth
  | .null | .blob _ | .date _ | .dateTime _ | .json _ | .array _ => none

def Denotes (v : Value) (n : Int64) : Prop := v.worth? = some (n.toInt : ℚ)

theorem Denotes.unique {v : Value} {n m : Int64} (first : v.Denotes n) (second : v.Denotes m) : n = m := by
  have same : (n.toInt : ℚ) = m.toInt := Option.some.inj (first.symm.trans second)
  exact Int64.toInt_inj.mp (Rat.intCast_inj.mp same)

def key? (v : Value) : Option Int64 := v.asInt? <|> v.asFloat?.map Decimal.toInt64

/-- What is cut off by taking the key is nothing. A double stands for a number of 64 bits; a text that does not spell
one is no number at all, or stands for what is left of the double that is nearest to it. -/
def KeepsKey : Value → Prop
  | .float x => ∃ n, Denotes (.float x) n
  | .text s => Decimal.int64? (Text.strip s) = none →
    ∀ x, Decimal.float? (Text.strip s) = some x → Denotes (.text s) (Decimal.toInt64 x)
  | _ => True

theorem key?_float (x : Float) : key? (.float x) = some (Decimal.toInt64 x) := by
  rw [key?, asInt?, wholeFloat?]
  split <;> rfl

theorem key?_text (s : String) : key? (.text s) =
    (Decimal.int64? (Text.strip s)).or ((Decimal.float? (Text.strip s)).map Decimal.toInt64) := by
  rw [key?, Option.orElse_eq_orElse, Option.orElse_eq_or, asInt?, asFloat?]

theorem not_denotes_of_key? {v : Value} (refused : v.key? = none) (n : Int64) : ¬ v.Denotes n := by
  cases v with
  | null | blob | date | dateTime | json | array => exact nofun
  | bool b => cases refused
  | int m => cases refused
  | float x => rw [key?_float] at refused; cases refused
  | text s =>
    rw [key?_text, Option.or_eq_none_iff, Option.map_eq_none_iff] at refused
    simp [Denotes, worth?, Decimal.written?_of_float? refused.2]

theorem key?_denoted_iff (v : Value) : (∀ n, v.key? = some n ↔ v.Denotes n) ↔ v.KeepsKey := by
  -- a key is the only number that is denoted as soon as it is denoted
  have of_key {m : Int64} (key : v.key? = some m) : (∀ n, v.key? = some n ↔ v.Denotes n) ↔ v.Denotes m := by
    refine ⟨fun exact => (exact m).mp key, fun denoted n => ?_⟩
    rw [key, Option.some_inj]
    exact ⟨fun same => same ▸ denoted, denoted.unique⟩
  cases v with
  | null | blob | date | dateTime | json | array => exact iff_of_true (fun n => iff_of_false nofun nofun) trivial
  | bool b => exact iff_of_true ((of_key rfl).mpr (by cases b <;> rfl)) trivial
  | int m => exact iff_of_true ((of_key rfl).mpr rfl) trivial
  | float x =>
    rw [of_key (key?_float x)]
    refine ⟨fun denoted => ⟨_, denoted⟩, ?_⟩
    rintro ⟨n, denoted⟩
    rwa [Decimal.toInt64_eq_of_worth denoted]
  | text s =>
    cases whole : Decimal.int64? (Text.strip s) with
    | some m =>
      rw [of_key (by rw [key?_text, whole, Option.some_or])]
      exact iff_of_true (Decimal.written?_of_int64? whole) fun none => by rw [whole] at none; cases none
    | none =>
      cases read : Decimal.float? (Text.strip s) with
      | some x =>
        rw [of_key (by rw [key?_text, whole, read]; rfl)]
        exact ⟨fun denoted _ y same => by rw [read] at same; cases same; exact denoted, fun keeps => keeps whole x read⟩
      | none =>
        have refused : key? (.text s) = none := by rw [key?_text, whole, read]; rfl
        refine iff_of_true (fun n => iff_of_false (by rw [refused]; nofun) (not_denotes_of_key? refused n)) ?_
        exact fun _ y same => by rw [read] at same; cases same

end Value

theorem generatedId_cons (r : Row) (later : List Row) (key : String) : generatedId (r :: later) key =
    match r.get? key <|> r.first? with
    | none => .error (.rows .emptyRow)
    | some v => match v.key? with
      | some id => .ok id
      | none => .error (.rows (.notAnId v)) := rfl

/-- The key of a row is the number that its value stands for, and every other value is refused, exactly for the values
whose number a double keeps. No value that stands for a number of 64 bits is refused. -/
theorem generatedId_denoted_iff (key : String) :
    generatedId [] key = .error (.rows .noRow) ∧
    ∀ (r : Row) (later : List Row), match r.get? key <|> r.first? with
      | none => generatedId (r :: later) key = .error (.rows .emptyRow)
      | some v =>
        ((∀ n, generatedId (r :: later) key = .ok n ↔ v.Denotes n) ↔ v.KeepsKey) ∧
          ((∃ n, generatedId (r :: later) key = .ok n) ∨
            generatedId (r :: later) key = .error (.rows (.notAnId v)) ∧ ∀ n, ¬ v.Denotes n) := by
  refine ⟨rfl, fun r later => ?_⟩
  cases found : r.get? key <|> r.first? with
  | none => rw [generatedId_cons, found]
  | some v =>
    have read : generatedId (r :: later) key = match v.key? with
        | some id => .ok id
        | none => .error (.rows (.notAnId v)) := by rw [generatedId_cons, found]
    have taken (n : Int64) : generatedId (r :: later) key = .ok n ↔ v.key? = some n := by
      rw [read]
      cases v.key? <;> simp
    refine ⟨?_, ?_⟩
    · simpa only [taken] using v.key?_denoted_iff
    · cases key : v.key? with
      | some id => exact .inl ⟨id, (taken id).mpr key⟩
      | none => exact .inr ⟨by rw [read, key], Value.not_denotes_of_key? key⟩

/-- One and a half is no whole number, and is taken for the key one. -/
theorem halfKey_cut : generatedId [Row.ofList [("id", .float 1.5)]] "id" = .ok 1 ∧
    ∀ n, ¬ Value.Denotes (.float 1.5) n := by
  refine ⟨?_, fun n denoted => ?_⟩
  · have cut : Decimal.toInt64 1.5 = 1 := by decide +kernel
    have found : ((Row.ofList [("id", .float 1.5)]).get? "id" <|> (Row.ofList [("id", .float 1.5)]).first?)
        = some (Value.float 1.5) := rfl
    rw [generatedId_cons, found]
    dsimp only
    rw [Value.key?_float, cut]
  have whole := Decimal.isWhole_of_worth denoted
  revert whole
  decide +kernel

end SqlCompiler
