import SqlCompiler.Proofs.Documents.Tokens
import SqlCompiler.Proofs.Quoting.TextLiterals

namespace SqlCompiler

def Visible (cs : List Char) : Prop := ∀ c ∈ cs, 0x20 ≤ c.toNat

theorem Visible.append {cs cs' : List Char} (first : Visible cs) (later : Visible cs') : Visible (cs ++ cs') :=
  List.forall_mem_append.mpr ⟨first, later⟩

theorem Visible.text_append {s t : String} (first : Visible s.toList) (later : Visible t.toList) :
    Visible (s ++ t).toList := by
  rw [String.toList_append]
  exact first.append later

theorem Visible.no_nul {cs : List Char} (visible : Visible cs) : '\x00' ∉ cs :=
  fun member => absurd (visible _ member) (by decide)

theorem visible_of_all {cs : List Char} (all : cs.all (fun c => 0x20 ≤ c.toNat) = true) : Visible cs :=
  fun c member => by simpa using List.all_eq_true.mp all c member

theorem visible_of_isNumberChar {c : Char} (number : Json.isNumberChar c) : 0x20 ≤ c.toNat := by
  simp only [Json.isNumberChar, Bool.or_eq_true, decide_eq_true_eq] at number
  rcases number with ((((digit | rfl) | rfl) | rfl) | rfl) | rfl
  · have least : '0' ≤ c := by simp_all [Decimal.isDigit]
    exact Nat.le_trans (by decide) (Char.le_def.mp least)
  all_goals decide

theorem Json.Numeric.visible {cs : List Char} (numeric : Json.Numeric cs) : Visible cs :=
  fun c member => visible_of_isNumberChar (numeric.all c member)

theorem padded_visible (width n : Nat) : Visible (padded width n) := by
  have zeros : Visible (List.replicate (width - (Decimal.digits n).length) '0') := by
    intro c member
    rw [List.eq_of_mem_replicate member]
    decide
  exact zeros.append (Json.digits_numeric n).visible

theorem Date.chars_visible (d : Date) : Visible d.chars := by
  have dash : Visible ['-'] := visible_of_all rfl
  have year : Visible (yearText d.year) := by
    unfold yearText
    split
    · exact padded_visible 4 _
    · exact Visible.append (show Visible [_] by split <;> exact visible_of_all rfl) (padded_visible 4 _)
  exact (((year.append dash).append (padded_visible 2 _)).append dash).append (padded_visible 2 _)

theorem DateTime.chars_visible (t : DateTime) : Visible (t.date.chars ++ [' '] ++ t.time.chars) := by
  have colon : Visible [':'] := visible_of_all rfl
  have hour := padded_visible 2 t.time.hour
  have time : Visible t.time.chars :=
    (((hour.append colon).append (padded_visible 2 _)).append colon).append (padded_visible 2 _)
  exact (t.date.chars_visible.append (visible_of_all rfl)).append time

namespace Json

theorem hexDigit_visible : ∀ n < 16, 0x20 ≤ (hexDigit n).toNat := by decide

theorem escapeChar_visible (c : Char) : Visible (escapeChar c) := by
  obtain ⟨letter, shape, escape⟩ | ⟨shape, control⟩ | ⟨shape, -, -, visible⟩ := escapeChar_cases c <;> rw [shape]
  · have small : 0x20 ≤ letter.toNat := by
      unfold simpleEscape? at escape
      split at escape <;> first | decide | cases escape
    exact List.forall_mem_cons.mpr ⟨by decide, by simpa using small⟩
  · have first := hexDigit_visible (c.toNat / 16) (by omega)
    have second := hexDigit_visible (c.toNat % 16) (by omega)
    have start : Visible ['\\', 'u', '0', '0'] := visible_of_all rfl
    exact start.append (by simp [Visible, first, second])
  · simpa [Visible] using visible

theorem quoted_visible (s : String) : Visible (quoted s).toList := by
  have inside : Visible (s.toList.flatMap escapeChar) := by
    intro c member
    obtain ⟨original, -, written⟩ := List.mem_flatMap.mp member
    exact escapeChar_visible original c written
  rw [quoted, String.toList_ofList]
  exact ((visible_of_all rfl).append inside).append (visible_of_all rfl)

mutual

theorem text_visible : (j : Json) → Visible j.text.toList
  | .null => visible_of_all rfl
  | .bool b => by cases b <;> exact visible_of_all rfl
  | .int n => (toString_numeric n).visible
  | .float x => by
    unfold text
    split
    next finite => exact (layout_numeric _ finite).visible
    next => exact visible_of_all rfl
  | .str s => quoted_visible s
  | .arr items =>
    ((visible_of_all rfl).text_append (itemTexts_visible items)).text_append (visible_of_all rfl)
  | .obj fields =>
    ((visible_of_all rfl).text_append (fieldTexts_visible fields)).text_append (visible_of_all rfl)

theorem itemTexts_visible : (items : List Json) → Visible (itemTexts items).toList
  | [] => visible_of_all rfl
  | [item] => text_visible item
  | item :: next :: rest =>
    ((text_visible item).text_append (visible_of_all rfl)).text_append (itemTexts_visible (next :: rest))

theorem fieldTexts_visible : (fields : List (String × Json)) → Visible (fieldTexts fields).toList
  | [] => visible_of_all rfl
  | [(name, value)] => ((quoted_visible name).text_append (visible_of_all rfl)).text_append (text_visible value)
  | (name, value) :: next :: rest =>
    let named := ((quoted_visible name).text_append (visible_of_all rfl)).text_append (text_visible value)
    (named.text_append (visible_of_all rfl)).text_append (fieldTexts_visible (next :: rest))

end

end Json

namespace Value

def refusal? : Value → Option Error
  | .float x => if x.isFinite then none else some (.invalid (.notFinite x))
  | .text s => if '\x00' ∈ s.toList then some (.invalid .nulCharacter) else none
  | _ => none

/-- A value holds itself, and an array whatever its items hold. -/
inductive Holds : Value → Value → Prop
  | self (v : Value) : Holds v v
  | item {items : List Value} {item w : Value} (member : item ∈ items) (holds : Holds item w) :
      Holds (.array items) w

theorem holds_iff {items : List Value} {w : Value} :
    (Value.array items).Holds w ↔ w = .array items ∨ ∃ item ∈ items, item.Holds w := by
  constructor
  · rintro (_ | ⟨member, holds⟩)
    · exact .inl rfl
    · exact .inr ⟨_, member, holds⟩
  · rintro (rfl | ⟨item, member, holds⟩)
    · exact .self _
    · exact .item member holds

theorem holds_scalar {v w : Value} (scalar : v.isArray = false) (holds : v.Holds w) : w = v := by
  cases holds with
  | self => rfl
  | item => cases scalar

end Value

namespace Dialect

open Value

theorem textLiteral_visible (d : Dialect) {s : String} (visible : Visible s.toList) :
    ∃ literal, d.textLiteral s = .ok literal := by
  rw [textLiteral_eq, if_neg visible.no_nul]
  exact ⟨_, rfl⟩

theorem literal_scalar (d : Dialect) {v : Value} (scalar : v.isArray = false) :
    (v.refusal? = none ∧ ∃ literal, d.literal v = .ok literal) ∨
      ∃ e, v.refusal? = some e ∧ d.literal v = .error e := by
  cases v with
  | null | bool | int | blob => exact .inl ⟨rfl, _, rfl⟩
  | float x =>
    by_cases finite : x.isFinite
    · exact .inl ⟨if_pos finite, _, if_pos finite⟩
    · exact .inr ⟨_, if_neg finite, if_neg finite⟩
  | text s =>
    by_cases nul : '\x00' ∈ s.toList
    · exact .inr ⟨_, if_pos nul, (d.textLiteral_eq s).trans (if_pos nul)⟩
    · exact .inl ⟨if_neg nul, _, (d.textLiteral_eq s).trans (if_neg nul)⟩
  | date day => exact .inl ⟨rfl, d.textLiteral_visible (String.toList_ofList ▸ day.chars_visible)⟩
  | dateTime t => exact .inl ⟨rfl, d.textLiteral_visible (String.toList_ofList ▸ t.chars_visible)⟩
  | json j => exact .inl ⟨rfl, d.textLiteral_visible j.text_visible⟩
  | array => cases scalar

theorem literal_array (d : Dialect) (other : d ≠ .postgres) (items : List Value) :
    ∃ literal, d.literal (.array items) = .ok literal := by
  have document := d.textLiteral_visible (Value.array items).toJson.text_visible
  cases d with
  | postgres => exact absurd rfl other
  | mysql | sqlite | sqlServer => exact document

example : Dialect.mysql.literal (.array [.float (0 / 0)]) = .ok "'[null]'" := rfl

theorem literal_postgres_scalar {v : Value} (scalar : v.isArray = false) :
    ((∀ w, v.Holds w → w.refusal? = none) ∧ ∃ literal, Dialect.postgres.literal v = .ok literal) ∨
      ∃ w e, v.Holds w ∧ w.refusal? = some e ∧ Dialect.postgres.literal v = .error e := by
  rcases literal_scalar .postgres scalar with ⟨none, written⟩ | ⟨e, refused, failed⟩
  · exact .inl ⟨fun w holds => holds_scalar scalar holds ▸ none, written⟩
  · exact .inr ⟨v, e, .self v, refused, failed⟩

mutual

theorem literal_postgres : (v : Value) →
    ((∀ w, v.Holds w → w.refusal? = none) ∧ ∃ literal, Dialect.postgres.literal v = .ok literal) ∨
      ∃ w e, v.Holds w ∧ w.refusal? = some e ∧ Dialect.postgres.literal v = .error e
  | .array items => by
    rw [literal]
    rcases literals_postgres items with ⟨none, literals, written⟩ | ⟨item, member, w, e, holds, refused, failed⟩
    · refine .inl ⟨fun w holds => ?_, _, by rw [written]; rfl⟩
      rcases holds_iff.mp holds with rfl | ⟨item, member, inside⟩
      · rfl
      · exact none item member w inside
    · exact .inr ⟨w, e, .item member holds, refused, by rw [failed]; rfl⟩
  | .null | .bool _ | .int _ | .float _ | .text _ | .blob _ | .date _ | .dateTime _ | .json _ =>
    literal_postgres_scalar rfl

theorem literals_postgres : (vs : List Value) →
    ((∀ v ∈ vs, ∀ w, v.Holds w → w.refusal? = none) ∧ ∃ literals, Dialect.postgres.literals vs = .ok literals) ∨
      ∃ v ∈ vs, ∃ w e, v.Holds w ∧ w.refusal? = some e ∧ Dialect.postgres.literals vs = .error e
  | [] => .inl ⟨by simp, [], rfl⟩
  | v :: rest => by
    rw [literals]
    rcases literal_postgres v with ⟨none, literal, written⟩ | ⟨w, e, holds, refused, failed⟩
    · rcases literals_postgres rest with ⟨later, texts, all⟩ | ⟨v', member, w, e, holds, refused, failed⟩
      · exact .inl ⟨List.forall_mem_cons.mpr ⟨none, later⟩, literal :: texts, by rw [written, all]; rfl⟩
      · exact .inr ⟨v', List.mem_cons_of_mem v member, w, e, holds, refused, by rw [written, failed]; rfl⟩
    · exact .inr ⟨v, List.mem_cons_self, w, e, holds, refused, by rw [failed]; rfl⟩

end

/-- Exactly those values have no literal that hold, at any depth in Postgres and themselves elsewhere, a text with NUL
or a float that is not finite; the error is about a part that the value holds. -/
theorem literal_refused_iff (d : Dialect) (v : Value) :
    ((∃ e, d.literal v = .error e) ↔ ∃ w, v.Holds w ∧ w.refusal?.isSome ∧ (d = .postgres ∨ w = v)) ∧
      ∀ e, d.literal v = .error e → ∃ w, v.Holds w ∧ w.refusal? = some e := by
  by_cases postgres : d = .postgres
  · subst postgres
    rcases literal_postgres v with ⟨none, literal, written⟩ | ⟨w, e, holds, refused, failed⟩
    · refine ⟨⟨fun ⟨e, failed⟩ => ?_, fun ⟨w, holds, refused, _⟩ => ?_⟩, fun e failed => ?_⟩
      · exact nomatch written.symm.trans failed
      · simp [none w holds] at refused
      · exact nomatch written.symm.trans failed
    · refine ⟨⟨fun _ => ⟨w, holds, by simp [refused], .inl rfl⟩, fun _ => ⟨e, failed⟩⟩, fun e' failed' => ?_⟩
      cases failed.symm.trans failed'
      exact ⟨w, holds, refused⟩
  · have alone : (∃ w, v.Holds w ∧ w.refusal?.isSome ∧ (d = .postgres ∨ w = v)) ↔ v.refusal?.isSome := by
      constructor
      · rintro ⟨w, -, refused, same | rfl⟩
        · exact absurd same postgres
        · exact refused
      · exact fun refused => ⟨v, .self v, refused, .inr rfl⟩
    rw [alone]
    have settled : (v.refusal? = none ∧ ∃ literal, d.literal v = .ok literal) ∨
        ∃ e, v.refusal? = some e ∧ d.literal v = .error e := by
      cases array : v.isArray with
      | false => exact d.literal_scalar array
      | true =>
        cases v with
        | array items => exact .inl ⟨rfl, d.literal_array postgres items⟩
        | _ => cases array
    rcases settled with ⟨none, literal, written⟩ | ⟨e, refused, failed⟩
    · simp [none, written]
    · refine ⟨⟨fun _ => by simp [refused], fun _ => ⟨e, failed⟩⟩, fun e' failed' => ?_⟩
      cases failed.symm.trans failed'
      exact ⟨v, .self v, refused⟩

def nestedNul : Value := .array [.int 1, .array [.text "a\x00"]]

theorem nestedNul_holds : nestedNul.Holds (.text "a\x00") :=
  .item (.tail _ (.head _)) (.item (.head _) (.self _))

theorem nestedNul_refused : (∃ e, Dialect.postgres.literal nestedNul = .error e) ∧
    ∃ w, nestedNul.Holds w ∧ w.refusal? = some (.invalid .nulCharacter) := by
  have refused : (Value.text "a\x00").refusal? = some (.invalid .nulCharacter) := rfl
  have failed : Dialect.postgres.literal nestedNul = .error (.invalid .nulCharacter) := rfl
  obtain ⟨exactly, cause⟩ := literal_refused_iff .postgres nestedNul
  exact ⟨exactly.mpr ⟨_, nestedNul_holds, by simp [refused], .inl rfl⟩, cause _ failed⟩

/-- Elsewhere the character is written as an escape of the document. -/
theorem nestedNul_written : (∃ w, nestedNul.Holds w ∧ w.refusal?.isSome) ∧
    Dialect.sqlite.literal nestedNul = .ok "'[1,[\x22a\\u0000\x22]]'" ∧
    ¬ ∃ e, Dialect.sqlite.literal nestedNul = .error e := by
  have written : Dialect.sqlite.literal nestedNul = .ok "'[1,[\x22a\\u0000\x22]]'" := rfl
  exact ⟨⟨_, nestedNul_holds, by decide⟩, written, fun ⟨_, failed⟩ => nomatch written.symm.trans failed⟩

end Dialect

end SqlCompiler
