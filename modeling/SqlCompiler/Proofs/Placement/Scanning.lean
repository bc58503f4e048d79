import SqlCompiler.Placeholder

namespace SqlCompiler

@[simp]
theorem Quoting.after_cons (d : Dialect) (q : Quoting) (c : Char) (cs : List Char) :
    Quoting.after d q (c :: cs) = Quoting.after d (q.next d c) cs := rfl

theorem Quoting.after_append (d : Dialect) (q : Quoting) (cs ds : List Char) :
    Quoting.after d q (cs ++ ds) = Quoting.after d (Quoting.after d q cs) ds := List.foldl_append

theorem placeholderCount_append (d : Dialect) (q : Quoting) (cs ds : List Char) :
    placeholderCount d q (cs ++ ds) =
      placeholderCount d q cs + placeholderCount d (Quoting.after d q cs) ds := by
  induction cs generalizing q with
  | nil => simp [placeholderCount, Quoting.after]
  | cons c cs ih =>
    simp only [List.cons_append, placeholderCount, ih, Quoting.after_cons]
    omega

theorem positionsFrom_append (d : Dialect) (q : Quoting) (offset : Nat) (cs ds : List Char) :
    positionsFrom d q offset (cs ++ ds) = positionsFrom d q offset cs ++
      positionsFrom d (Quoting.after d q cs) (offset + (String.ofList cs).utf8ByteSize) ds := by
  induction cs generalizing q offset with
  | nil => simp [positionsFrom, Quoting.after]
  | cons c cs ih =>
    have size : offset + (String.ofList (c :: cs)).utf8ByteSize =
        offset + c.utf8Size + (String.ofList cs).utf8ByteSize := by
      rw [String.ofList_cons, String.utf8ByteSize_append, String.utf8ByteSize_singleton]
      omega
    simp only [List.cons_append, positionsFrom, ih, Quoting.after_cons, size]
    split <;> simp

/-- The text ends outside quotes if it begins there, and it has so many placeholders. -/
structure Dialect.Holds (d : Dialect) (s : String) (n : Nat) : Prop where
  closed : Quoting.after d .outside s.toList = .outside
  count : d.placeholders s = n

/-- The text is not part of anything quoted when it ends, and it has no placeholder. -/
def Dialect.Inert (d : Dialect) (s : String) : Prop := d.Holds s 0

namespace Dialect

theorem Holds.append {d : Dialect} {s t : String} {m n : Nat} (first : d.Holds s m) (second : d.Holds t n) :
    d.Holds (s ++ t) (m + n) := by
  refine ⟨?_, ?_⟩
  · rw [String.toList_append, Quoting.after_append, first.closed, second.closed]
  · rw [placeholders, String.toList_append, placeholderCount_append, first.closed, ← first.count, ← second.count]
    rfl

theorem Inert.append {d : Dialect} {s t : String} (first : d.Inert s) (second : d.Inert t) : d.Inert (s ++ t) :=
  Holds.append first second

theorem inert_empty (d : Dialect) : d.Inert "" := ⟨rfl, rfl⟩

theorem holds_placeholder (d : Dialect) : d.Holds "?" 1 := by cases d <;> exact ⟨by decide, by decide⟩

theorem Holds.positions_append {d : Dialect} {s : String} {n : Nat} (first : d.Holds s n) (offset : Nat)
    (rest : String) :
    positionsFrom d .outside offset (s ++ rest).toList =
      positionsFrom d .outside offset s.toList ++
        positionsFrom d .outside (offset + s.utf8ByteSize) rest.toList := by
  rw [String.toList_append, positionsFrom_append, first.closed, String.ofList_toList]

theorem Inert.positions {d : Dialect} {s : String} (inert : d.Inert s) (offset : Nat) :
    positionsFrom d .outside offset s.toList = [] := by
  rw [← List.length_eq_zero_iff, length_positionsFrom]
  exact inert.count

end Dialect

def isPlain (c : Char) : Bool :=
  !(['\x27', '\x22', '\x60', '\\', '[', ']', '?'].contains c)

theorem isPlain_iff {c : Char} : isPlain c ↔
    c ≠ '\x27' ∧ c ≠ '\x22' ∧ c ≠ '\x60' ∧ c ≠ '\\' ∧ c ≠ '[' ∧ c ≠ ']' ∧ c ≠ '?' := by
  simp [isPlain]

theorem isPlain_of_isDigit {c : Char} (digit : c.isDigit) : isPlain c := by
  rw [isPlain_iff]
  refine ⟨?_, ?_, ?_, ?_, ?_, ?_, ?_⟩ <;> (rintro rfl; revert digit; decide)

/-- A text without quotes, backslashes, square brackets and question marks. -/
def PlainText (s : String) : Prop := ∀ c ∈ s.toList, isPlain c

theorem PlainText.append {s t : String} (first : PlainText s) (second : PlainText t) : PlainText (s ++ t) := by
  intro c member
  rw [String.toList_append] at member
  exact (List.mem_append.mp member).elim (first c) (second c)

/-- A literal unfolds to the list of its characters, so for literals the check needs no decoding of bytes. -/
theorem PlainText.of_chars {cs : List Char} (plain : cs.all isPlain = true) : PlainText (String.ofList cs) := by
  rw [PlainText, String.toList_ofList]
  exact List.all_eq_true.mp plain

theorem scan_stays {d : Dialect} {q : Quoting} {cs : List Char} (stays : ∀ c ∈ cs, q.next d c = q)
    (quiet : q = .outside → '?' ∉ cs) : Quoting.after d q cs = q ∧ placeholderCount d q cs = 0 := by
  induction cs with
  | nil => exact ⟨rfl, rfl⟩
  | cons c cs ih =>
    have rest := ih (fun c member => stays c (List.mem_cons_of_mem _ member))
      fun outside member => quiet outside (List.mem_cons_of_mem _ member)
    have first := stays c (by simp)
    have silent : ¬ (q = .outside ∧ c = '?') := fun ⟨outside, same⟩ => quiet outside (by simp [same])
    simp [placeholderCount, first, rest, silent]

theorem inert_between {d : Dialect} {q : Quoting} {first last : Char} {body : List Char}
    (enters : Quoting.next d .outside first = q) (silent : first ≠ '?')
    (inside : Quoting.after d q body = q ∧ placeholderCount d q body = 0)
    (leaves : Quoting.next d q last = .outside) (quoted : q ≠ .outside) :
    d.Inert (String.ofList (first :: body ++ [last])) := by
  refine ⟨?_, ?_⟩
  · simp only [String.toList_ofList, List.cons_append, Quoting.after_cons, enters, Quoting.after_append, inside.1,
      leaves]
    rfl
  · simp only [Dialect.placeholders, String.toList_ofList, List.cons_append, placeholderCount, enters,
      placeholderCount_append, inside]
    simp [silent, quoted]

theorem Dialect.holds_scan {d : Dialect} {cs : List Char} {n : Nat} (closed : Quoting.after d .outside cs = .outside)
    (count : placeholderCount d .outside cs = n) : d.Holds (String.ofList cs) n :=
  ⟨by rw [String.toList_ofList, closed], by rw [placeholders, String.toList_ofList, count]⟩

theorem Dialect.inert_scan {d : Dialect} {cs : List Char} (closed : Quoting.after d .outside cs = .outside)
    (none : placeholderCount d .outside cs = 0) : d.Inert (String.ofList cs) := holds_scan closed none

theorem PlainText.inert {s : String} (plain : PlainText s) (d : Dialect) : d.Inert s := by
  have stays : ∀ c ∈ s.toList, Quoting.next d .outside c = .outside := by
    intro c member
    have ⟨quote, double, tick, _, bracket, _, _⟩ := isPlain_iff.mp (plain c member)
    cases d <;> simp [Quoting.next, Dialect.openQuote, quote, double, tick, bracket]
  have whole := scan_stays stays fun _ member => absurd (plain _ member) (by decide)
  exact ⟨whole.1, whole.2⟩

theorem Dialect.inert_chars {d : Dialect} {cs : List Char} (plain : cs.all isPlain = true) :
    d.Inert (String.ofList cs) := (PlainText.of_chars plain).inert d

end SqlCompiler
