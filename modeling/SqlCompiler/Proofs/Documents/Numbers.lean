import Mathlib.Data.List.TakeWhile
import SqlCompiler.Json.Printer
import SqlCompiler.Json.Reader

namespace SqlCompiler

namespace Decimal

theorem isDigit_bounds {c : Char} (digit : isDigit c) : 48 ≤ c.toNat ∧ c.toNat ≤ 57 := by
  simp only [isDigit, Bool.and_eq_true, decide_eq_true_eq, Char.le_def, UInt32.le_iff_toNat_le] at digit
  exact digit

theorem isDigit_of_mem_digits {n : Nat} {c : Char} (member : c ∈ digits n) : isDigit c :=
  Nat.isDigit_of_mem_toDigits (b := 10) (by decide) (by decide) member

theorem natOfDigits_digits (n : Nat) : natOfDigits (digits n) = n := by
  have worth : Nat.ofDigitChars 10 (Nat.toDigits 10 n) 0 = n := Nat.ofDigitChars_ten_toDigits
  rwa [Nat.ofDigitChars_eq_foldl] at worth

theorem digits_ne_nil (n : Nat) : digits n ≠ [] := Nat.toDigits_ne_nil

theorem nat?_digits (n : Nat) : nat? (digits n) = some n := by
  have all : (digits n).all isDigit :=
    List.all_eq_true.mpr fun _ member => isDigit_of_mem_digits member
  rw [nat?, if_pos ⟨digits_ne_nil n, all⟩, natOfDigits_digits]

theorem digitChar_ne_zero : ∀ n < 10, 0 < n → n.digitChar ≠ '0' := by decide

theorem digits_head (n : Nat) (positive : 0 < n) : (digits n).head? ≠ some '0' := by
  induction n using Nat.strongRecOn with
  | ind n ih =>
    rw [digits, Nat.toDigits_eq_if (by decide)]
    split
    next small => simpa using digitChar_ne_zero n small positive
    next large =>
      have first := ih (n / 10) (by omega) (by omega)
      rwa [List.head?_append, Option.or_of_isSome]
      exact List.isSome_head?.mpr (digits_ne_nil (n / 10))

theorem digits_zero : digits 0 = ['0'] := Nat.toDigits_zero 10

theorem le_foldl_digits (ds : List Char) (n : Nat) : n ≤ ds.foldl (fun n d => 10 * n + digitValue d) n := by
  induction ds generalizing n with
  | nil => exact Nat.le_refl n
  | cons d ds ih =>
    have step := ih (10 * n + digitValue d)
    rw [List.foldl_cons]
    omega

end Decimal

namespace Json

open Decimal (isDigit digitValue natOfDigits digits)

theorem pushDigits_fits {ds : List Char} {n : Nat}
    (fits : ds.foldl (fun n d => 10 * n + digitValue d) n < UInt64.size) :
    pushDigits n ds = (ds.foldl (fun n d => 10 * n + digitValue d) n, []) := by
  induction ds generalizing n with
  | nil => rfl
  | cons d ds ih =>
    have next := Nat.lt_of_le_of_lt (Decimal.le_foldl_digits ds (10 * n + digitValue d)) fits
    rw [pushDigits, if_pos next, ih fits, List.foldl_cons]

theorem unsigned?_digits {n : Nat} (fits : n < UInt64.size) (negative : Bool) :
    unsigned? negative (digits n) = some ⟨negative, n, none⟩ := by
  have all : ∀ c ∈ digits n, isDigit c := fun _ member => Decimal.isDigit_of_mem_digits member
  have digitsOnly : (digits n).takeWhile isDigit = digits n := List.takeWhile_eq_self_iff.mpr all
  have nothing : (digits n).dropWhile isDigit = [] := List.dropWhile_eq_nil_iff.mpr all
  have accepted : ¬(digits n = [] ∨ (digits n).head? = some '0' ∧ (digits n).length ≠ 1) := by
    rintro (none | ⟨zero, long⟩)
    · exact Decimal.digits_ne_nil n none
    · rcases Nat.eq_zero_or_pos n with rfl | positive
      · exact long (by rw [Decimal.digits_zero]; rfl)
      · exact Decimal.digits_head n positive zero
  have pushed : pushDigits 0 (digits n) = (n, []) := by
    have worth : (digits n).foldl (fun n d => 10 * n + digitValue d) 0 = n := Decimal.natOfDigits_digits n
    rw [pushDigits_fits (by rwa [worth]), worth]
  rw [unsigned?]
  dsimp only
  rw [digitsOnly, nothing, if_neg accepted, pushed]
  rfl

theorem numeral?_digits {n : Nat} (fits : n < UInt64.size) : numeral? (digits n) = some ⟨false, n, none⟩ := by
  rw [numeral?, unsigned?_digits fits]
  intro cs minus
  have digit : isDigit '-' := Decimal.isDigit_of_mem_digits (minus ▸ List.mem_cons_self)
  exact absurd digit (by decide)

def numeralOf (n : Int) : Numeral := ⟨n < 0, n.natAbs, none⟩

theorem numeralOf_ofNat (n : Nat) : numeralOf n = ⟨false, n, none⟩ := by
  simp [numeralOf]

theorem numeralOf_negSucc (n : Nat) : numeralOf (.negSucc n) = ⟨true, n + 1, none⟩ := by
  simp [numeralOf, Int.negSucc_lt_zero]

theorem numeral?_toString {n : Int} (low : Int64.minValue.toInt ≤ n) (high : n < UInt64.size) :
    numeral? (toString n).toList = some (numeralOf n) := by
  have bounds : n.natAbs < UInt64.size := by
    have least : Int64.minValue.toInt = -9223372036854775808 := by decide
    have most : UInt64.size = 18446744073709551616 := rfl
    omega
  cases n with
  | ofNat n =>
    change numeral? (toString n).toList = _
    rw [Nat.toString_eq_ofList_toDigits, String.toList_ofList]
    exact (numeral?_digits bounds).trans (congrArg some (numeralOf_ofNat n).symm)
  | negSucc n =>
    change numeral? ("-" ++ toString (n + 1)).toList = _
    rw [Nat.toString_eq_ofList_toDigits, String.toList_append, String.toList_ofList, String.toList_ofList]
    exact (unsigned?_digits bounds true).trans (congrArg some (numeralOf_negSucc n).symm)

theorem numeralOf_value {n : Int} (low : Int64.minValue.toInt ≤ n) : (numeralOf n).value? = some (.int n) := by
  cases n with
  | ofNat n => exact congrArg Numeral.value? (numeralOf_ofNat n)
  | negSucc n =>
    have least : Int64.minValue.toInt ≤ -((n + 1 : Nat) : Int) := low
    have negated : whole true (n + 1) = .int (.negSucc n) := by
      rw [whole, if_pos rfl, if_neg (Nat.succ_ne_zero n), if_pos least]
      rfl
    rw [numeralOf_negSucc, ← negated]
    rfl

structure Numeric (cs : List Char) : Prop where
  starts : ∃ c rest, cs = c :: rest ∧ (c = '-' ∨ isDigit c)
  all : ∀ c ∈ cs, isNumberChar c

theorem numbers_of_digits {cs : List Char} (all : ∀ c ∈ cs, isDigit c) : ∀ c ∈ cs, isNumberChar c :=
  fun c member => by simp [isNumberChar, all c member]

theorem Numeric.minus {cs : List Char} (rest : ∀ c ∈ cs, isNumberChar c) : Numeric ('-' :: cs) :=
  ⟨⟨'-', cs, rfl, .inl rfl⟩, List.forall_mem_cons.mpr ⟨by decide, rest⟩⟩

theorem Numeric.append {cs after : List Char} (first : Numeric cs) (later : ∀ c ∈ after, isNumberChar c) :
    Numeric (cs ++ after) := by
  obtain ⟨⟨c, rest, rfl, start⟩, all⟩ := first
  exact ⟨⟨c, rest ++ after, rfl, start⟩, List.forall_mem_append.mpr ⟨all, later⟩⟩

theorem Numeric.of_digits {ds : List Char} (some : ds ≠ []) (all : ∀ c ∈ ds, isDigit c) : Numeric ds := by
  obtain ⟨d, rest, rfl⟩ := List.exists_cons_of_ne_nil some
  exact ⟨⟨d, rest, rfl, .inr (all d List.mem_cons_self)⟩, numbers_of_digits all⟩

theorem digits_numeric (n : Nat) : Numeric (digits n) :=
  .of_digits (Decimal.digits_ne_nil n) fun _ member => Decimal.isDigit_of_mem_digits member

theorem toString_numeric (n : Int) : Numeric (toString n).toList := by
  cases n with
  | ofNat n =>
    change Numeric (toString n).toList
    rw [Nat.toString_eq_ofList_toDigits, String.toList_ofList]
    exact digits_numeric n
  | negSucc n =>
    change Numeric ("-" ++ toString (n + 1)).toList
    rw [Nat.toString_eq_ofList_toDigits, String.toList_append, String.toList_ofList, String.toList_ofList]
    exact .minus (digits_numeric (n + 1)).all

section

variable {ds : List Char} (some : ds ≠ []) (all : ∀ c ∈ ds, isDigit c)
include some all

theorem plain_numeric (exponent : Int) : Numeric (Decimal.plain ds exponent) := by
  have zeros (n : Nat) : ∀ c ∈ List.replicate n '0', isNumberChar c := by
    intro c member
    rw [List.eq_of_mem_replicate member]
    decide
  have numbers := numbers_of_digits all
  unfold Decimal.plain
  dsimp only
  split
  · exact ((Numeric.of_digits some all).append (zeros _)).append (List.all_eq_true.mp rfl)
  · split
    next short =>
      refine Numeric.append (.of_digits ?_ fun c member => all c (List.mem_of_mem_take member)) ?_
      · rw [Ne, List.take_eq_nil_iff]
        rintro (zero | none)
        · omega
        · exact some none
      · exact List.forall_mem_cons.mpr ⟨by decide, fun c member => numbers c (List.mem_of_mem_drop member)⟩
    next =>
      have zero : Numeric ['0', '.'] := ⟨⟨'0', _, rfl, by decide⟩, List.all_eq_true.mp rfl⟩
      exact (zero.append (zeros _)).append numbers

theorem withExponent_numeric (l : Decimal.Layout) (exponent : Int) : Numeric (Decimal.withExponent l ds exponent) := by
  obtain ⟨d, rest, rfl⟩ := List.exists_cons_of_ne_nil some
  obtain ⟨digit, others⟩ := List.forall_mem_cons.mp all
  have one : Numeric [d] := .of_digits (List.cons_ne_nil d []) (by simpa using digit)
  have scaled {mantissa : List Char} (numeric : Numeric mantissa) (power : Int) :
      Numeric (mantissa ++ ['e'] ++ (if power < 0 then ['-'] else if l.plusSign then ['+'] else []) ++
        digits power.natAbs) := by
    refine ((numeric.append (List.all_eq_true.mp rfl)).append ?_).append (digits_numeric _).all
    split
    · exact List.all_eq_true.mp rfl
    · split <;> exact List.all_eq_true.mp rfl
  cases rest with
  | nil => exact scaled one _
  | cons e rest =>
    have pointed : ∀ c ∈ '.' :: e :: rest, isNumberChar c :=
      List.forall_mem_cons.mpr ⟨by decide, numbers_of_digits others⟩
    exact scaled (one.append pointed) _

end

theorem magnitude_numeric (l : Decimal.Layout) (b : Decimal.Binary) : Numeric (l.magnitude b) := by
  unfold Decimal.Layout.magnitude
  dsimp only
  split
  · exact ⟨⟨'0', _, rfl, by decide⟩, List.all_eq_true.mp rfl⟩
  · have some := Decimal.digits_ne_nil (Decimal.shortest l.tiesUp b).coefficient
    have all : ∀ c ∈ digits (Decimal.shortest l.tiesUp b).coefficient, isDigit c :=
      fun _ member => Decimal.isDigit_of_mem_digits member
    split
    · exact plain_numeric some all _
    · exact withExponent_numeric some all l _

theorem finite_float {x : Float} (finite : x.isFinite) : x.isNaN = false ∧ x.isInf = false := by
  revert finite
  unfold Float.isFinite Float.isNaN Float.isInf Float.Model.isFinite Float.Model.isNaN Float.Model.isInf
  cases x.toModel.unpack with
  | infinity sign => exact nofun
  | notANumber => exact nofun
  | zero sign => exact fun _ => ⟨rfl, rfl⟩
  | finite sign mantissa exponent positive => exact fun _ => ⟨rfl, rfl⟩

theorem layout_numeric (l : Decimal.Layout) {x : Float} (finite : x.isFinite) : Numeric (l.text x).toList := by
  obtain ⟨number, bounded⟩ := finite_float finite
  have size := magnitude_numeric l (.ofBits x.toBits.toNat)
  rw [Decimal.Layout.text, number, bounded, if_neg Bool.false_ne_true, if_neg Bool.false_ne_true, String.toList_ofList]
  split
  · exact .minus size.all
  · exact size

end Json

end SqlCompiler
