import SqlCompiler.Proofs.Placement.Scanning
import SqlCompiler.Sql

namespace SqlCompiler

/-- The text of the piece has a placeholder for each of its values. -/
def Piece.Sound (d : Dialect) (p : Piece) : Prop := d.Holds p.sql p.values.length

namespace Sql

def Sound (d : Dialect) (s : Sql) : Prop := ∀ p ∈ s.pieces, p.Sound d

/-- The values that some pieces bind, each with the number of bytes before the placeholder that was written for it. A
fragment's own values belong to its own placeholders, one after the other. -/
def placementsFrom (d : Dialect) (offset : Nat) : List Piece → List (Nat × Value)
  | [] => []
  | p :: rest =>
    (positionsFrom d .outside offset p.sql.toList).zip p.values ++
      placementsFrom d (offset + p.sql.utf8ByteSize) rest

def placements (d : Dialect) (s : Sql) : List (Nat × Value) := placementsFrom d 0 s.pieces

theorem textOf_holds {d : Dialect} {pieces : List Piece} (sound : ∀ p ∈ pieces, p.Sound d) :
    d.Holds (textOf pieces) (pieces.flatMap Piece.values).length := by
  induction pieces with
  | nil => exact d.inert_empty
  | cons p rest ih =>
    have first : d.Holds p.sql p.values.length := sound p (by simp)
    have later := ih fun other member => sound other (List.mem_cons_of_mem _ member)
    rw [textOf, List.flatMap_cons, List.length_append]
    exact first.append later

theorem Sound.holds {d : Dialect} {s : Sql} (sound : s.Sound d) : d.Holds s.text s.values.length :=
  textOf_holds sound

theorem placementsFrom_sound {d : Dialect} {pieces : List Piece} (sound : ∀ p ∈ pieces, p.Sound d) (offset : Nat) :
    (placementsFrom d offset pieces).map Prod.fst = positionsFrom d .outside offset (textOf pieces).toList ∧
      (placementsFrom d offset pieces).map Prod.snd = pieces.flatMap Piece.values := by
  induction pieces generalizing offset with
  | nil => exact ⟨rfl, rfl⟩
  | cons p rest ih =>
    have first : d.Holds p.sql p.values.length := sound p (by simp)
    have later := ih (fun other member => sound other (List.mem_cons_of_mem _ member))
      (offset + p.sql.utf8ByteSize)
    have same : (positionsFrom d .outside offset p.sql.toList).length = p.values.length := by
      rw [length_positionsFrom]
      exact first.count
    refine ⟨?_, ?_⟩
    · rw [placementsFrom, List.map_append, later.1, List.map_fst_zip (by omega), textOf, first.positions_append]
    · rw [placementsFrom, List.map_append, later.2, List.map_snd_zip (by omega), List.flatMap_cons]

/-- The placeholders of a sound statement, one after the other, are those that were written for its values. -/
theorem Sound.placements {d : Dialect} {s : Sql} (sound : s.Sound d) :
    (s.placements d).map Prod.fst = d.positions s.text ∧ (s.placements d).map Prod.snd = s.values :=
  placementsFrom_sound sound 0

@[simp]
theorem sound_append {d : Dialect} {a b : Sql} : (a ++ b).Sound d ↔ a.Sound d ∧ b.Sound d := by
  have pieces : (a ++ b).pieces = a.pieces ++ b.pieces := rfl
  simp only [Sound, pieces, List.forall_mem_append]

@[simp]
theorem sound_ofText {d : Dialect} {s : String} : (ofText s).Sound d ↔ d.Inert s := by
  simp [Sound, ofText, Piece.Sound, Piece.sql, Piece.values, Dialect.Inert]

@[simp]
theorem sound_raw {d : Dialect} {sql : String} {values : List Value} :
    (raw sql values).Sound d ↔ d.Holds sql values.length := by
  simp [Sound, raw, Piece.Sound, Piece.sql, Piece.values]

@[simp]
theorem sound_param (d : Dialect) (v : Value) : (param v).Sound d := by
  simpa [Sound, param, Piece.Sound, Piece.sql, Piece.values] using d.holds_placeholder

@[simp]
theorem sound_empty (d : Dialect) : empty.Sound d := by simp [Sound, empty]

@[simp]
theorem values_raw (sql : String) (values : List Value) : (raw sql values).values = values := by
  simp [Sql.values, raw, Piece.values]

@[simp]
theorem values_empty : empty.values = [] := rfl

theorem sound_join {d : Dialect} {separator : String} {parts : List Sql} (between : d.Inert separator)
    (all : ∀ part ∈ parts, part.Sound d) : (join separator parts).Sound d := by
  fun_induction join separator parts with
  | case1 => exact sound_empty d
  | case2 s => exact all s (by simp)
  | case3 s next rest ih =>
    simp only [sound_append, sound_ofText]
    exact ⟨⟨all s (by simp), between⟩, ih fun part member => all part (List.mem_cons_of_mem _ member)⟩

theorem values_join (separator : String) (parts : List Sql) :
    (join separator parts).values = parts.flatMap Sql.values := by
  fun_induction join separator parts with
  | case1 => rfl
  | case2 s => simp
  | case3 s next rest ih => simp [ih]

theorem Sound.values_of_isEmpty {d : Dialect} {s : Sql} (sound : s.Sound d) (nothing : s.isEmpty) :
    s.values = [] := by
  have text : s.text = "" := by simpa [isEmpty] using nothing
  have count := sound.holds.count
  rw [text] at count
  exact List.length_eq_zero_iff.mp count.symm

theorem sound_concat {d : Dialect} {parts : List Sql} (all : ∀ part ∈ parts, part.Sound d) :
    (concat parts).Sound d :=
  sound_join (Dialect.inert_chars rfl) fun part member => all part (List.mem_filter.mp member).1

theorem values_concat {d : Dialect} {parts : List Sql} (all : ∀ part ∈ parts, part.Sound d) :
    (concat parts).values = parts.flatMap Sql.values := by
  rw [concat, values_join]
  induction parts with
  | nil => rfl
  | cons part rest ih =>
    have later := ih fun other member => all other (List.mem_cons_of_mem _ member)
    rw [List.filter_cons]
    split
    · simp [later]
    · rename_i nothing
      have none := (all part (by simp)).values_of_isEmpty (by simpa using nothing)
      simp [later, none]

end Sql

theorem isPlain_of_isBlank {c : Char} (blank : Text.isBlank c) : isPlain c := by
  rw [isPlain_iff]
  refine ⟨?_, ?_, ?_, ?_, ?_, ?_, ?_⟩ <;> (rintro rfl; revert blank; decide)

theorem Text.trimEnd_append_blanks (cs : List Char) :
    ∃ blanks, cs = trimEnd cs ++ blanks ∧ ∀ c ∈ blanks, isBlank c := by
  induction cs with
  | nil => exact ⟨[], rfl, by simp⟩
  | cons c cs ih =>
    obtain ⟨blanks, whole, all⟩ := ih
    simp only [trimEnd]
    split
    · rename_i nothing
      rw [nothing, List.nil_append] at whole
      split
      · rename_i blank
        exact ⟨c :: blanks, by simp [← whole], by simpa [blank] using all⟩
      · exact ⟨blanks, by simp [← whole], all⟩
    · exact ⟨blanks, by rw [List.cons_append, ← whole], all⟩

theorem outside_before_blanks {d : Dialect} {q : Quoting} {blanks : List Char}
    (all : ∀ c ∈ blanks, Text.isBlank c) (outside : Quoting.after d q blanks = .outside) : q = .outside := by
  induction blanks generalizing q with
  | nil => exact outside
  | cons c cs ih =>
    have before := ih (fun other member => all other (List.mem_cons_of_mem _ member)) outside
    have ⟨quote, double, tick, _, _, bracket, _⟩ := isPlain_iff.mp (isPlain_of_isBlank (all c (by simp)))
    have other : c ≠ d.closeQuote := by cases d <;> assumption
    cases q with
    | outside => rfl
    | literal =>
      simp only [Quoting.next, quote, if_false] at before
      split at before <;> cases before
    | escaped => cases before
    | name => simp [Quoting.next, other] at before

theorem Dialect.Holds.trimEnd {d : Dialect} {s : String} {n : Nat} (whole : d.Holds s n) :
    d.Holds (String.ofList (Text.trimEnd s.toList)) n := by
  obtain ⟨blanks, cut, all⟩ := Text.trimEnd_append_blanks s.toList
  have closed := whole.closed
  have count := whole.count
  rw [placeholders] at count
  rw [cut, Quoting.after_append] at closed
  have outside := outside_before_blanks all closed
  have plain : PlainText (String.ofList blanks) := by
    rw [PlainText, String.toList_ofList]
    exact fun c member => isPlain_of_isBlank (all c member)
  have none := (plain.inert d).count
  rw [placeholders, String.toList_ofList] at none
  rw [cut, placeholderCount_append, outside, none] at count
  exact ⟨by rw [String.toList_ofList, outside], by rw [placeholders, String.toList_ofList]; exact count⟩

namespace Sql

theorem trimPieces_values (pieces : List Piece) :
    (trimPieces pieces).flatMap Piece.values = pieces.flatMap Piece.values := by
  have same : ∀ p : Piece, (Piece.trimEnd p).values = p.values := by
    intro p
    cases p <;> rfl
  induction pieces with
  | nil => rfl
  | cons p rest ih =>
    simp only [trimPieces]
    split <;> simp [same, ih]

theorem trimPieces_sound {d : Dialect} {pieces : List Piece} (sound : ∀ p ∈ pieces, p.Sound d) :
    ∀ p ∈ trimPieces pieces, p.Sound d := by
  have trimmed : ∀ p : Piece, p.Sound d → (Piece.trimEnd p).Sound d := by
    intro p holds
    cases p with
    | text s => exact Dialect.Holds.trimEnd holds
    | param v => exact holds
    | raw sql values => exact Dialect.Holds.trimEnd holds
  induction pieces with
  | nil => simp [trimPieces]
  | cons p rest ih =>
    have later := ih fun other member => sound other (List.mem_cons_of_mem _ member)
    have first := sound p (by simp)
    simp only [trimPieces]
    split
    · simpa using ⟨trimmed p first, later⟩
    · simpa using ⟨first, later⟩

theorem Sound.trimEnd {d : Dialect} {s : Sql} (sound : s.Sound d) : s.trimEnd.Sound d := trimPieces_sound sound

@[simp]
theorem values_trimEnd (s : Sql) : s.trimEnd.values = s.values := trimPieces_values s.pieces

end Sql

theorem Operand.sql_values (value : Operand) : value.sql.values = value.bindings := by cases value <;> rfl

theorem parameters_values (operands : List Operand) :
    (parameters operands).values = operands.flatMap Operand.bindings := by
  simp only [parameters, Sql.values_join, List.flatMap_map, Operand.sql_values]

end SqlCompiler
