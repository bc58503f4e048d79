import SqlCompiler.Dialect
import SqlCompiler.Proofs.Placement.Scanning

namespace SqlCompiler

/-- Where a reader stands: outside quotes or inside them, with so many parentheses open. -/
inductive Place
  | outside (depth : Nat)
  | inside (quote : Char) (depth : Nat)
  | escaped (quote : Char) (depth : Nat)
deriving DecidableEq

/-- The quote that closes what a character opens. Of two closing brackets in a name the first leaves the name and the
second enters it again, as with all other quotes. -/
def Dialect.closing? (d : Dialect) (c : Char) : Option Char :=
  if c = '\x27' ∨ c = '\x22' then some c
  else if c = '\x60' ∧ (d = .mysql ∨ d = .sqlite) then some c
  else if c = '[' ∧ (d = .sqlServer ∨ d = .sqlite) then some ']'
  else if c = ']' ∧ d = .sqlServer then some c
  else none

def Place.next (d : Dialect) : Place → Char → Option Place
  | .outside depth, c =>
    match d.closing? c with
    | some quote => some (.inside quote depth)
    | none =>
      if c = '(' then some (.outside (depth + 1))
      else if c = ')' then if depth = 0 then none else some (.outside (depth - 1))
      else some (.outside depth)
  | .inside quote depth, c =>
    if d.hasBackslashEscapes ∧ quote ≠ d.closeQuote ∧ c = '\\' then some (.escaped quote depth)
    else if c = quote then some (.outside depth)
    else some (.inside quote depth)
  | .escaped quote depth, _ => some (.inside quote depth)

def walk (d : Dialect) (p : Place) (cs : List Char) : Option Place := cs.foldlM (Place.next d) p

def isWordChar (c : Char) : Bool :=
  c.isAlphanum || ['_', '$', '@', '#'].contains c || (0x80 ≤ c.toNat && !Text.isBlank c)

inductive Lexeme
  | word (cs : List Char)
  | other (c : Char)
deriving DecidableEq

namespace Lexeme

def text : Lexeme → List Char
  | .word cs => cs
  | .other c => [c]

def push (c : Char) : List Lexeme → List Lexeme
  | .word cs :: rest => .word (c :: cs) :: rest
  | rest => .word [c] :: rest

inductive Keyword
  | and
  | or
  | not
  | between
deriving DecidableEq

def keyword? : Lexeme → Option Keyword
  | .word cs =>
    let upper := cs.map Char.toUpper
    if upper = ['A', 'N', 'D'] then some .and
    else if upper = ['O', 'R'] then some .or
    else if upper = ['N', 'O', 'T'] then some .not
    else if upper = ['B', 'E', 'T', 'W', 'E', 'E', 'N'] then some .between
    else none
  | .other _ => none

def isBlank : Lexeme → Bool
  | .word _ => false
  | .other c => Text.isBlank c

def unnegated : List Lexeme → Bool
  | [] => true
  | l :: rest => if l.isBlank then unnegated rest else l.keyword? != some .not

end Lexeme

def lexemes (d : Dialect) (p : Place) : List Char → List Lexeme
  | [] => []
  | c :: cs =>
    let later := lexemes d ((p.next d c).getD p) cs
    if p = .outside 0 ∧ isWordChar c then Lexeme.push c later else .other c :: later

/-- How many words `BETWEEN` are left without their `AND`, if so many were before. There is no answer where an `AND`
belongs to none of them, or where there is an `OR`. -/
def unpaired : Nat → List Lexeme → Option Nat
  | n, [] => some n
  | n, l :: rest =>
    match l.keyword? with
    | some .or => none
    | some .and => if n = 0 then none else unpaired (n - 1) rest
    | some .between => unpaired (n + 1) rest
    | some .not | none => unpaired n rest

theorem walk_append (d : Dialect) (p : Place) (a b : List Char) :
    walk d p (a ++ b) = (walk d p a).bind fun q => walk d q b := List.foldlM_append

@[simp]
theorem walk_nil (d : Dialect) (p : Place) : walk d p [] = some p := rfl

@[simp]
theorem walk_cons (d : Dialect) (p : Place) (c : Char) (cs : List Char) :
    walk d p (c :: cs) = (p.next d c).bind fun q => walk d q cs := rfl

theorem walk_cons_eq_some {d : Dialect} {p q : Place} {c : Char} {cs : List Char}
    (walked : walk d p (c :: cs) = some q) : ∃ next, p.next d c = some next ∧ walk d next cs = some q :=
  Option.bind_eq_some_iff.mp walked

theorem next_wordChar {d : Dialect} {c : Char} (word : isWordChar c) (n : Nat) :
    Place.next d (.outside n) c = some (.outside n) := by
  have none : d.closing? c = none := by
    have plain : c ≠ '\x27' ∧ c ≠ '\x22' ∧ c ≠ '\x60' ∧ c ≠ '[' ∧ c ≠ ']' := by
      refine ⟨?_, ?_, ?_, ?_, ?_⟩ <;> (rintro rfl; revert word; decide)
    simp [Dialect.closing?, plain]
  have parentheses : c ≠ '(' ∧ c ≠ ')' := by constructor <;> (rintro rfl; revert word; decide)
  simp [Place.next, none, parentheses]

theorem Lexeme.push_append {c : Char} {ls ms : List Lexeme} (filled : ls ≠ []) :
    push c (ls ++ ms) = push c ls ++ ms := by
  cases ls with
  | nil => exact absurd rfl filled
  | cons l ls => cases l <;> rfl

theorem Lexeme.push_apart {c : Char} {ls : List Lexeme} (apart : ∀ cs, ls.head? ≠ some (.word cs)) :
    push c ls = .word [c] :: ls := by
  cases ls with
  | nil => rfl
  | cons l ls =>
    cases l with
    | word cs => exact absurd rfl (apart cs)
    | other x => rfl

theorem lexemes_ne_nil {d : Dialect} {p : Place} {cs : List Char} (filled : cs ≠ []) : lexemes d p cs ≠ [] := by
  cases cs with
  | nil => exact absurd rfl filled
  | cons c cs =>
    simp only [lexemes]
    split
    · cases lexemes d ((p.next d c).getD p) cs with
      | nil => simp [Lexeme.push]
      | cons l ls => cases l <;> simp [Lexeme.push]
    · simp

def startsApart (cs : List Char) : Bool := cs.head?.all fun c => !isWordChar c

def endsApart (cs : List Char) : Bool := cs.getLast?.any fun c => !isWordChar c

theorem endsApart_append {b : List Char} (ends : endsApart b) (a : List Char) : endsApart (a ++ b) := by
  unfold endsApart at ends ⊢
  rw [List.getLast?_append]
  cases last : b.getLast? with
  | none => simp [last] at ends
  | some c => simpa [last] using ends

theorem head_lexemes {d : Dialect} {p : Place} {b : List Char} (starts : startsApart b) (cs : List Char) :
    (lexemes d p b).head? ≠ some (.word cs) := by
  cases b with
  | nil => simp [lexemes]
  | cons c b =>
    have other : isWordChar c = false := by simpa [startsApart] using starts
    simp [lexemes, other]

/-- Two texts are read one after the other unless a word runs from one into the other. -/
theorem lexemes_append {d : Dialect} {p q : Place} {a b : List Char} (walked : walk d p a = some q)
    (apart : q = .outside 0 → endsApart a ∨ startsApart b) :
    lexemes d p (a ++ b) = lexemes d p a ++ lexemes d q b := by
  induction a generalizing p with
  | nil =>
    cases walked
    rfl
  | cons c a ih =>
    obtain ⟨next, step, rest⟩ := walk_cons_eq_some walked
    cases a with
    | nil =>
      cases rest
      simp only [lexemes, List.cons_append, List.nil_append, step, Option.getD_some]
      split
      · rename_i word
        rw [word.1, next_wordChar word.2] at step
        cases step
        have starts := (apart rfl).resolve_left (by simp [endsApart, word.2])
        exact Lexeme.push_apart (head_lexemes starts)
      · rfl
    | cons x a =>
      have later := ih rest apart
      rw [List.cons_append, lexemes, lexemes, step, Option.getD_some, later]
      split
      · exact Lexeme.push_append (lexemes_ne_nil (by simp))
      · rfl

theorem lexemes_link {d : Dialect} {p q r : Place} {a words b : List Char} (first : walk d p a = some q)
    (middle : walk d q words = some r) (starts : q = .outside 0 → startsApart words) (ends : endsApart words) :
    lexemes d p (a ++ words ++ b) = lexemes d p a ++ lexemes d q words ++ lexemes d r b := by
  have both : walk d p (a ++ words) = some r := by
    rw [walk_append, first]
    exact middle
  rw [lexemes_append both fun _ => .inl (endsApart_append ends a),
    lexemes_append first fun outside => .inr (starts outside)]

theorem flatMap_text_lexemes (d : Dialect) (p : Place) (cs : List Char) :
    (lexemes d p cs).flatMap Lexeme.text = cs := by
  induction cs generalizing p with
  | nil => rfl
  | cons c cs ih =>
    have pushed (ls : List Lexeme) : (Lexeme.push c ls).flatMap Lexeme.text = c :: ls.flatMap Lexeme.text := by
      match ls with
      | [] => rfl
      | .word _ :: _ => rfl
      | .other _ :: _ => rfl
    simp only [lexemes]
    split
    · rw [pushed, ih]
    · rw [List.flatMap_cons, ih]
      rfl

def Place.deeper (k : Nat) : Place → Place
  | .outside n => .outside (n + k)
  | .inside quote n => .inside quote (n + k)
  | .escaped quote n => .escaped quote (n + k)

theorem Place.next_deeper {d : Dialect} {p q : Place} {c : Char} (step : p.next d c = some q) (k : Nat) :
    (p.deeper k).next d c = some (q.deeper k) := by
  cases p with
  | outside n =>
    simp only [Place.next, Place.deeper] at step ⊢
    split at step
    · cases step
      rfl
    · split at step
      · cases step
        simp [*, Nat.add_right_comm]
      · split at step
        · split at step
          · cases step
          · cases step
            have depth : n + k ≠ 0 := by omega
            have same : n + k - 1 = n - 1 + k := by omega
            simp [*]
        · cases step
          simp [*]
  | inside quote n =>
    simp only [Place.next, Place.deeper] at step ⊢
    split at step
    · cases step
      simp [*]
    · split at step <;> (cases step; simp_all)
  | escaped quote n =>
    cases step
    rfl

theorem walk_deeper {d : Dialect} {p q : Place} {cs : List Char} (walked : walk d p cs = some q) (k : Nat) :
    walk d (p.deeper k) cs = some (q.deeper k) := by
  induction cs generalizing p with
  | nil =>
    cases walked
    rfl
  | cons c cs ih =>
    obtain ⟨next, step, rest⟩ := walk_cons_eq_some walked
    simp [Place.next_deeper step k, ih rest]

theorem lexemes_deeper {d : Dialect} {p q : Place} {cs : List Char} (walked : walk d p cs = some q) (k : Nat) :
    lexemes d (p.deeper (k + 1)) cs = cs.map .other := by
  induction cs generalizing p with
  | nil => rfl
  | cons c cs ih =>
    obtain ⟨next, step, rest⟩ := walk_cons_eq_some walked
    have within : p.deeper (k + 1) ≠ .outside 0 := by cases p <;> simp [Place.deeper]
    simp [lexemes, within, Place.next_deeper step, ih rest]

theorem unpaired_append (n : Nat) (ls ms : List Lexeme) :
    unpaired n (ls ++ ms) = (unpaired n ls).bind fun m => unpaired m ms := by
  induction ls generalizing n with
  | nil => rfl
  | cons l ls ih =>
    simp only [List.cons_append, unpaired, ih]
    repeat' split
    all_goals rfl

theorem unpaired_other (n : Nat) (cs : List Char) : unpaired n (cs.map Lexeme.other) = some n := by
  induction cs with
  | nil => rfl
  | cons c cs ih => simpa [unpaired, Lexeme.keyword?] using ih

theorem unpaired_add {m n : Nat} {ls : List Lexeme} (left : unpaired m ls = some n) (k : Nat) :
    unpaired (m + k) ls = some (n + k) := by
  induction ls generalizing m with
  | nil =>
    cases left
    rfl
  | cons l ls ih =>
    simp only [unpaired] at left ⊢
    split at left
    · cases left
    · split at left
      · cases left
      · have before : m + k ≠ 0 := by omega
        have same : m + k - 1 = m - 1 + k := by omega
        rw [if_neg before, same]
        exact ih left
    · have same : m + k + 1 = m + 1 + k := by omega
      rw [same]
      exact ih left
    · exact ih left
    · exact ih left

def opensApart (cs : List Char) : Bool := cs.head?.any fun c => !Text.isBlank c && c.toUpper != 'N'

theorem unnegated_lexemes {d : Dialect} {cs : List Char} (opens : opensApart cs = true) :
    Lexeme.unnegated (lexemes d (.outside 0) cs) = true := by
  cases cs with
  | nil => rfl
  | cons c cs =>
    simp only [opensApart, List.head?_cons, Option.any_some, Bool.and_eq_true, Bool.not_eq_true', bne_iff_ne] at opens
    simp only [lexemes]
    split
    · have pushed (ls : List Lexeme) : Lexeme.unnegated (Lexeme.push c ls) = true := by
        have first (word : List Char) (rest : List Lexeme) :
            Lexeme.unnegated (.word (c :: word) :: rest) = true := by
          simp only [Lexeme.unnegated, Lexeme.isBlank, Lexeme.keyword?, List.map_cons, List.cons.injEq, opens.2]
          repeat' split
          all_goals simp_all
        match ls with
        | [] => exact first [] []
        | .word word :: rest => exact first word rest
        | .other x :: rest => exact first [] (.other x :: rest)
      exact pushed _
    · simp [Lexeme.unnegated, Lexeme.isBlank, opens.1, Lexeme.keyword?]

end SqlCompiler
