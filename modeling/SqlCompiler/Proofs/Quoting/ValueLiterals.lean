import SqlCompiler.Proofs.Placement.Comparisons
import SqlCompiler.Proofs.Quoting.TextLiterals

namespace SqlCompiler

namespace Decimal

theorem digits_isPlain (n : Nat) : ∀ c ∈ digits n, isPlain c :=
  fun _ member => isPlain_of_isDigit (Nat.isDigit_of_mem_toDigits (by decide) (by decide) member)

theorem zeros_isPlain (n : Nat) : ∀ c ∈ List.replicate n '0', isPlain c := by
  intro c member
  rw [List.eq_of_mem_replicate member]
  decide

theorem plain_isPlain {ds : List Char} (all : ∀ c ∈ ds, isPlain c) (exponent : Int) :
    ∀ c ∈ plain ds exponent, isPlain c := by
  have point : isPlain '.' := by decide
  have zero : isPlain '0' := by decide
  have zeros := zeros_isPlain
  unfold plain
  dsimp only
  split
  · grind
  · split
    · intro c member
      rcases List.mem_append.mp member with whole | fraction
      · exact all c (List.mem_of_mem_take whole)
      · rcases List.mem_cons.mp fraction with rfl | places
        · exact point
        · exact all c (List.mem_of_mem_drop places)
    · grind

theorem withExponent_isPlain (l : Layout) {ds : List Char} (all : ∀ c ∈ ds, isPlain c) (exponent : Int) :
    ∀ c ∈ withExponent l ds exponent, isPlain c := by
  have marks : isPlain '.' ∧ isPlain 'e' ∧ isPlain '-' ∧ isPlain '+' := by decide
  have power := digits_isPlain
  unfold withExponent
  dsimp only
  split <;> split <;> grind

theorem magnitude_isPlain (l : Layout) (b : Binary) : ∀ c ∈ l.magnitude b, isPlain c := by
  unfold Layout.magnitude
  dsimp only
  split
  · exact List.all_eq_true.mp rfl
  · split
    · exact plain_isPlain (digits_isPlain _) _
    · exact withExponent_isPlain l (digits_isPlain _) _

theorem text_plain (l : Layout) (x : Float) : PlainText (l.text x) := by
  have number := magnitude_isPlain l (.ofBits x.toBits.toNat)
  have minus : isPlain '-' := by decide
  unfold Layout.text
  split
  · exact .of_chars rfl
  · split
    · split <;> exact .of_chars rfl
    · rw [PlainText, String.toList_ofList]
      split <;> grind

end Decimal

theorem digitChar_isPlain : ∀ n < 16, isPlain (Nat.digitChar n) := by decide

theorem hexBytes_plain (bytes : List UInt8) : PlainText (hexBytes bytes) := by
  rw [PlainText, hexBytes, String.toList_ofList]
  intro c member
  obtain ⟨b, _, digit⟩ := List.mem_flatMap.mp member
  have size := b.toNat_lt
  simp only [List.mem_cons, List.not_mem_nil, or_false] at digit
  rcases digit with rfl | rfl
  · exact digitChar_isPlain _ (by omega)
  · exact digitChar_isPlain _ (by omega)

namespace Dialect

theorem boolLiteral_inert (d : Dialect) (b : Bool) : d.Inert (d.boolLiteral b) := by
  cases d <;> cases b <;> exact inert_chars rfl

theorem blobLiteral_inert (d : Dialect) (bytes : List UInt8) : d.Inert (d.blobLiteral bytes) := by
  have plain := hexBytes_plain bytes
  have quotes : '\x27' ∉ (hexBytes bytes).toList := fun member => absurd (plain _ member) (by decide)
  have backslashes : '\\' ∉ (hexBytes bytes).toList := fun member => absurd (plain _ member) (by decide)
  cases d
  case postgres =>
    have quoted : Spells .postgres ('\\' :: 'x' :: (hexBytes bytes).toList) _ :=
      .same (by simp [quotes]) (by simp [hasBackslashEscapes])
    have written : blobLiteral .postgres bytes =
        String.ofList ('\x27' :: '\\' :: 'x' :: (hexBytes bytes).toList ++ ['\x27']) ++ "::bytea" := by
      simp [blobLiteral, ← String.toList_inj]
    rw [written]
    exact Inert.append quoted.inert (inert_chars rfl)
  case sqlServer => exact Inert.append (inert_chars rfl) (plain.inert _)
  all_goals
    have quoted (d : Dialect) : Spells d (hexBytes bytes).toList _ := .same quotes fun _ => backslashes
    have written : "X'" ++ hexBytes bytes ++ "'" =
        "X" ++ String.ofList ('\x27' :: (hexBytes bytes).toList ++ ['\x27']) := by
      simp [← String.toList_inj]
    rw [blobLiteral, written]
    exact Inert.append (inert_chars rfl) (quoted _).inert

theorem textLiteral_inert (d : Dialect) (s : String) : Compiles d.Inert (d.textLiteral s) := by
  rw [textLiteral_eq]
  split
  · exact .error fun _ _ => by simp
  · exact .ok (d.inside_spells s.toList).inert

mutual

theorem literal_inert (d : Dialect) : (v : Value) → Compiles d.Inert (d.literal v)
  | .null => .ok (inert_chars rfl)
  | .bool b => .ok (d.boolLiteral_inert b)
  | .int n => .ok (Int.toString_inert d n.toInt)
  | .float x => by
    unfold literal
    split
    · exact .ok ((Decimal.text_plain _ x).inert d)
    · exact .error fun _ _ => Error.noConfusion
  | .text s => textLiteral_inert d s
  | .blob bytes => .ok (d.blobLiteral_inert bytes)
  | .date day => textLiteral_inert d day.text
  | .dateTime t => textLiteral_inert d t.text
  | .json j => textLiteral_inert d j.text
  | .array items => by
    have all := literals_inert d items
    unfold literal
    cases d
    case postgres =>
      refine all.map fun literals inert => ?_
      have comma : Inert .postgres ", " := inert_chars rfl
      have between := inert_intercalate comma inert
      exact Inert.append (Inert.append (inert_scan rfl rfl) between) (inert_scan rfl rfl)
    all_goals exact textLiteral_inert _ _

theorem literals_inert (d : Dialect) : (vs : List Value) →
    Compiles (fun literals => ∀ s ∈ literals, d.Inert s) (d.literals vs)
  | [] => .ok (by simp)
  | v :: rest => by
    have first := literal_inert d v
    have later := literals_inert d rest
    unfold literals
    refine first.bind fun literal inert => later.map fun literals all => ?_
    exact List.forall_mem_cons.mpr ⟨inert, all⟩

end

end Dialect

end SqlCompiler
