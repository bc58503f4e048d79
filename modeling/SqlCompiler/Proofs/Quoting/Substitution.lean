import Mathlib.Data.List.Forall2
import SqlCompiler.Proofs.Quoting.ValueLiterals

namespace SqlCompiler

def cutPlaceholders (d : Dialect) (q : Quoting) : List Char → String × List String
  | [] => ("", [])
  | c :: cs =>
    let (first, later) := cutPlaceholders d (q.next d c) cs
    if q = .outside ∧ c = '?' then ("", first :: later) else (String.singleton c ++ first, later)

def offsetsBefore (offset : Nat) : List String → List Nat
  | [] => []
  | part :: parts => offset :: offsetsBefore (offset + "?".utf8ByteSize + part.utf8ByteSize) parts

section

variable (d : Dialect) (q : Quoting) (cs : List Char)

theorem cutPlaceholders_length : (cutPlaceholders d q cs).2.length = placeholderCount d q cs := by
  induction cs generalizing q with
  | nil => rfl
  | cons c cs ih =>
    simp only [cutPlaceholders, placeholderCount]
    split <;> simp [ih]

theorem cutPlaceholders_join :
    (cutPlaceholders d q cs).1 ++ String.join ((cutPlaceholders d q cs).2.map ("?" ++ ·)) = String.ofList cs := by
  induction cs generalizing q with
  | nil => rfl
  | cons c cs ih =>
    rw [String.ofList_cons, ← ih (q.next d c)]
    simp only [cutPlaceholders]
    split
    · rename_i mark
      have single : String.singleton c = "?" := by rw [mark.2]; rfl
      simp [single, String.append_assoc]
    · simp [String.append_assoc]

theorem positionsFrom_cutPlaceholders (offset : Nat) :
    positionsFrom d q offset cs =
      offsetsBefore (offset + (cutPlaceholders d q cs).1.utf8ByteSize) (cutPlaceholders d q cs).2 := by
  induction cs generalizing q offset with
  | nil => rfl
  | cons c cs ih =>
    simp only [positionsFrom, cutPlaceholders, ih]
    split
    · rename_i mark
      have size : c.utf8Size = "?".utf8ByteSize := by rw [mark.2]; rfl
      simp [offsetsBefore, size]
    · simp [String.utf8ByteSize_append, String.utf8ByteSize_singleton, Nat.add_assoc]

theorem fill_cutPlaceholders {literals : List String} (count : literals.length = placeholderCount d q cs) :
    String.ofList (fill d q literals cs) = (cutPlaceholders d q cs).1 ++
      String.join (List.zipWith (· ++ ·) literals (cutPlaceholders d q cs).2) := by
  induction cs generalizing q literals with
  | nil => simp [fill, cutPlaceholders]
  | cons c cs ih =>
    simp only [placeholderCount] at count
    simp only [fill, cutPlaceholders]
    split
    · rename_i mark
      rw [if_pos mark] at count
      cases literals with
      | nil => simp at count
      | cons literal rest =>
        have fewer : rest.length = placeholderCount d (q.next d c) cs := by simpa using count
        simp [ih (q.next d c) fewer, String.append_assoc]
    · rename_i other
      rw [if_neg other] at count
      have later := ih (q.next d c) count
      simp [String.ofList_cons, later, String.append_assoc]

theorem fill_nil : fill d q [] cs = cs := by
  induction cs generalizing q with
  | nil => rfl
  | cons c cs ih =>
    simp only [fill, ih]
    split <;> rfl

theorem placeholderCount_fill {literals : List String} (count : literals.length = placeholderCount d q cs)
    (inert : ∀ literal ∈ literals, d.Inert literal) : placeholderCount d q (fill d q literals cs) = 0 := by
  induction cs generalizing q literals with
  | nil => rfl
  | cons c cs ih =>
    simp only [placeholderCount] at count
    simp only [fill]
    split
    · rename_i mark
      obtain ⟨rfl, rfl⟩ := mark
      have stays : Quoting.next d .outside '?' = .outside := by cases d <;> rfl
      cases literals with
      | nil => simp at count
      | cons literal rest =>
        obtain ⟨first, later⟩ := List.forall_mem_cons.mp inert
        have silent : placeholderCount d .outside literal.toList = 0 := first.count
        have fewer : rest.length = placeholderCount d (Quoting.next d .outside '?') cs := by simpa using count
        have unfilled := ih (Quoting.next d .outside '?') fewer later
        simpa [placeholderCount_append, silent, first.closed, stays] using unfilled
    · rename_i other
      rw [if_neg other] at count
      simp [placeholderCount, other, ih (q.next d c) count inert]

end

namespace Dialect

variable {d : Dialect}

theorem literals_ok_iff {values : List Value} {written : List String} :
    d.literals values = .ok written ↔ List.Forall₂ (fun v literal => d.literal v = .ok literal) values written := by
  induction values generalizing written with
  | nil => simp [literals, eq_comm]
  | cons v values ih =>
    simp only [List.forall₂_cons_left_iff, ← ih, literals]
    cases d.literal v <;> cases d.literals values <;> simp [bind, Except.bind, pure, Except.pure, eq_comm]

theorem exists_literals_iff {values : List Value} :
    (∃ written, d.literals values = .ok written) ↔ ∀ v ∈ values, ∃ literal, d.literal v = .ok literal := by
  induction values with
  | nil => simp [literals]
  | cons v values ih =>
    rw [List.forall_mem_cons, ← ih]
    simp only [literals]
    cases d.literal v <;> cases d.literals values <;> simp [bind, Except.bind, pure, Except.pure]

theorem substitute_ok_iff {sql out : String} {values : List Value} :
    d.substitute sql values = .ok out ↔ d.placeholders sql = values.length ∧
      ∃ written, d.literals values = .ok written ∧ out = String.ofList (fill d .outside written sql.toList) := by
  unfold substitute
  split
  case isTrue count =>
    cases d.literals values <;> simp [bind, Except.bind, pure, Except.pure, count, eq_comm]
  case isFalse count => simp [count]

/-- In one text the literals of the values stand where the other has placeholders; between them both are the same. -/
def Filled (d : Dialect) (sql : String) (values : List Value) (out : String) : Prop :=
  ∃ (first : String) (later written : List String),
    List.Forall₂ (fun v literal => d.literal v = .ok literal) values written ∧ written.length = later.length ∧
    sql = first ++ String.join (later.map ("?" ++ ·)) ∧
    d.positions sql = offsetsBefore first.utf8ByteSize later ∧
    out = first ++ String.join (List.zipWith (· ++ ·) written later)

section

variable {sql : String} {values : List Value} {written : List String} (count : d.placeholders sql = values.length)
  (found : d.literals values = .ok written)
include count found

theorem length_literals : written.length = placeholderCount d .outside sql.toList := by
  rw [← (literals_ok_iff.mp found).length_eq, ← count]
  rfl

theorem fill_filled : d.Filled sql values (String.ofList (fill d .outside written sql.toList)) := by
  have enough := length_literals count found
  refine ⟨(cutPlaceholders d .outside sql.toList).1, (cutPlaceholders d .outside sql.toList).2, written,
    literals_ok_iff.mp found, ?_, ?_, ?_, ?_⟩
  · rw [cutPlaceholders_length, enough]
  · rw [cutPlaceholders_join, String.ofList_toList]
  · simpa [positions] using positionsFrom_cutPlaceholders d .outside sql.toList 0
  · exact fill_cutPlaceholders d .outside sql.toList enough

theorem fill_placeholders : d.placeholders (String.ofList (fill d .outside written sql.toList)) = 0 := by
  have inert : ∀ literal ∈ written, d.Inert literal := by
    have all := d.literals_inert values
    rw [found] at all
    cases all with
    | ok inert => exact inert
  rw [placeholders, String.toList_ofList]
  exact placeholderCount_fill d .outside sql.toList (length_literals count found) inert

end

/-- A text is filled exactly if it has a placeholder for every value and every value has a literal. Then the literals
stand in the places of the placeholders, nothing else is changed, and there is nothing left to fill. -/
theorem substitute_exact (d : Dialect) (sql : String) (values : List Value) :
    ((∃ out, d.substitute sql values = .ok out) ↔
      (d.positions sql).length = values.length ∧ ∀ v ∈ values, ∃ literal, d.literal v = .ok literal) ∧
    ∀ out, d.substitute sql values = .ok out →
      d.Filled sql values out ∧ d.positions out = [] ∧ d.substitute out [] = .ok out := by
  have length (sql : String) : (d.positions sql).length = d.placeholders sql :=
    length_positionsFrom d .outside 0 sql.toList
  refine ⟨?_, ?_⟩
  · rw [length, ← exists_literals_iff]
    simp [substitute_ok_iff]
  · intro out filled
    obtain ⟨count, written, found, rfl⟩ := substitute_ok_iff.mp filled
    have none := fill_placeholders count found
    refine ⟨fill_filled count found, ?_, ?_⟩
    · rw [← List.length_eq_zero_iff, length, none]
    · rw [substitute_ok_iff]
      exact ⟨none, [], rfl, by rw [fill_nil, String.ofList_toList]⟩

/-- Question marks in a literal, in a name and in a value are none to be filled. -/
theorem substitute_tags :
    let sql := "SELECT '?' = ANY(?) AND \x22new?\x22 = ?"
    let values := [.array [.text "it's ?", .array [.int 7, .null]], .bool true]
    let out := "SELECT '?' = ANY(ARRAY['it''s ?', ARRAY[7, NULL]]) AND \x22new?\x22 = TRUE"
    substitute .postgres sql values = .ok out ∧
      Filled .postgres sql values out ∧ positions .postgres out = [] ∧ substitute .postgres out [] = .ok out := by
  intro sql values out
  have found : literals .postgres values = .ok ["ARRAY['it''s ?', ARRAY[7, NULL]]", "TRUE"] := rfl
  have filled : substitute .postgres sql values = .ok out :=
    substitute_ok_iff.mpr ⟨by decide, _, found, by decide⟩
  exact ⟨filled, (substitute_exact .postgres sql values).2 out filled⟩

end Dialect

end SqlCompiler
