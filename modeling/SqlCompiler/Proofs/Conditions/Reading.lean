import SqlCompiler.Proofs.Conditions.Spans
import SqlCompiler.Proofs.Erasure.Texts

namespace SqlCompiler

/-- What a condition says. -/
inductive Formula
  | test (sql : String)
  | not (inner : Formula)
  | group (runs : List (List Formula))

def more (ls : List Lexeme) (runs : List (List (List Lexeme))) : List (List (List Lexeme)) :=
  runs.modifyHead fun run => run.modifyHead (ls ++ ·)

/-- The runs of operands that `OR` joins, a run being the operands that `AND` joins. So many `AND`s belong to words
`BETWEEN` before the text. -/
def operands : Nat → List Lexeme → List (List (List Lexeme))
  | _, [] => [[[]]]
  | n, l :: rest =>
    match l.keyword? with
    | some .or => [[]] :: operands 0 rest
    | some .and => if n = 0 then (operands 0 rest).modifyHead ([] :: ·) else more [l] (operands (n - 1) rest)
    | some .between => more [l] (operands (n + 1) rest)
    | some .not | none => more [l] (operands n rest)

def lexemeText (ls : List Lexeme) : List Char := ls.flatMap Lexeme.text

def factor (read : List Char → Formula) : List Lexeme → Formula
  | [] => read []
  | l :: rest =>
    if l.isBlank then factor read rest
    else if l.keyword? = some .not then .not (factor read rest)
    else read (lexemeText (l :: rest))

def parenthesized? (d : Dialect) : List Char → Option (List Char)
  | '(' :: rest =>
    if rest.getLast? = some ')' ∧ walk d (.outside 0) rest.dropLast = some (.outside 0) then some rest.dropLast
    else none
  | _ => none

def atom (d : Dialect) (within : List Char → List (List Formula)) (cs : List Char) : Formula :=
  match parenthesized? d (Text.trim cs) with
  | some inner => .group (within inner)
  | none => .test (String.ofList (Text.trim cs))

def readWith (d : Dialect) : Nat → List Char → List (List Formula)
  | 0, _ => []
  | fuel + 1, cs =>
    (operands 0 (lexemes d (.outside 0) cs)).map (·.map (factor (atom d (readWith d fuel))))

def reading (d : Dialect) (cs : List Char) : List (List Formula) := readWith d (cs.length + 1) cs

namespace Dialect

def meaning (d : Dialect) (sql : String) : List (List Formula) := reading d sql.toList

def operand (d : Dialect) (sql : String) : Formula := atom d (reading d) sql.toList

end Dialect

theorem length_trim_le (cs : List Char) : (Text.trim cs).length ≤ cs.length := by
  obtain ⟨blanks, cut, _⟩ := Text.trimEnd_append_blanks (Text.trimStart cs)
  have kept : (Text.trim cs).length ≤ (Text.trimStart cs).length := by
    rw [Text.trim]
    conv_rhs => rw [cut]
    simp
  exact Nat.le_trans kept (List.dropWhile_sublist Text.isBlank).length_le

theorem length_parenthesized {d : Dialect} {cs inner : List Char} (found : parenthesized? d cs = some inner) :
    inner.length < cs.length := by
  unfold parenthesized? at found
  split at found
  · split at found
    · cases found
      simp only [List.length_cons, List.length_dropLast]
      omega
    · cases found
  · cases found

theorem atom_congr {d : Dialect} {f g : List Char → List (List Formula)} {cs : List Char}
    (same : ∀ inner : List Char, inner.length < cs.length → f inner = g inner) : atom d f cs = atom d g cs := by
  unfold atom
  split
  · rename_i inner found
    rw [same inner (Nat.lt_of_lt_of_le (length_parenthesized found) (length_trim_le cs))]
  · rfl

theorem length_lexemeText_cons (l : Lexeme) (ls : List Lexeme) :
    (lexemeText ls).length ≤ (lexemeText (l :: ls)).length := by
  simp [lexemeText]

theorem factor_congr {f g : List Char → Formula} {ls : List Lexeme}
    (same : ∀ cs : List Char, cs.length ≤ (lexemeText ls).length → f cs = g cs) : factor f ls = factor g ls := by
  induction ls with
  | nil => exact same [] (by simp)
  | cons l ls ih =>
    have later := ih fun cs short => same cs (Nat.le_trans short (length_lexemeText_cons l ls))
    simp only [factor, later]
    split
    · rfl
    · split
      · rfl
      · exact same _ (Nat.le_refl _)

theorem mem_more {ls : List Lexeme} {runs : List (List (List Lexeme))} {n : Nat}
    (short : ∀ run ∈ runs, ∀ o ∈ run, (lexemeText o).length ≤ n) :
    ∀ run ∈ more ls runs, ∀ o ∈ run, (lexemeText o).length ≤ (lexemeText ls).length + n := by
  have longer {o : List Lexeme} (bound : (lexemeText o).length ≤ n) :
      (lexemeText o).length ≤ (lexemeText ls).length + n := by omega
  intro run inRuns o inRun
  match runs with
  | [] => cases inRuns
  | [] :: later =>
    rcases List.mem_cons.mp inRuns with rfl | inLater
    · cases inRun
    · exact longer (short run (by simp [inLater]) o inRun)
  | (first :: rest) :: later =>
    rcases List.mem_cons.mp inRuns with rfl | inLater
    · rcases List.mem_cons.mp inRun with rfl | inRest
      · have bound := short (first :: rest) (by simp) first (by simp)
        simp only [lexemeText, List.flatMap_append, List.length_append] at bound ⊢
        omega
      · exact longer (short (first :: rest) (by simp) o (by simp [inRest]))
    · exact longer (short run (by simp [inLater]) o inRun)

theorem length_operands (n : Nat) (ls : List Lexeme) :
    ∀ run ∈ operands n ls, ∀ o ∈ run, (lexemeText o).length ≤ (lexemeText ls).length := by
  induction ls generalizing n with
  | nil => simp [operands]
  | cons l ls ih =>
    have first (m : Nat) : ∀ run ∈ more [l] (operands m ls), ∀ o ∈ run,
        (lexemeText o).length ≤ (lexemeText (l :: ls)).length := by
      have whole : (lexemeText (l :: ls)).length = (lexemeText [l]).length + (lexemeText ls).length := by
        simp [lexemeText]
      rw [whole]
      exact mem_more (ih m)
    have later (m : Nat) : ∀ run ∈ operands m ls, ∀ o ∈ run, (lexemeText o).length ≤ (lexemeText (l :: ls)).length :=
      fun run inRuns o inRun => Nat.le_trans (ih m run inRuns o inRun) (length_lexemeText_cons l ls)
    simp only [operands]
    split
    · intro run inRuns o inRun
      rcases List.mem_cons.mp inRuns with rfl | inLater
      · simp only [List.mem_singleton] at inRun
        simp [inRun, lexemeText]
      · exact later 0 run inLater o inRun
    · split
      · intro run inRuns o inRun
        match found : operands 0 ls with
        | [] => simp [found] at inRuns
        | head :: tail =>
          rw [found, List.modifyHead_cons] at inRuns
          rcases List.mem_cons.mp inRuns with rfl | inTail
          · rcases List.mem_cons.mp inRun with rfl | inHead
            · simp [lexemeText]
            · exact later 0 head (by simp [found]) o inHead
          · exact later 0 run (by simp [found, inTail]) o inRun
      · exact first (n - 1)
    · exact first (n + 1)
    · exact first n
    · exact first n

/-- Fuel for more than the characters of a text is never used. -/
theorem readWith_eq {d : Dialect} {m n : Nat} {cs : List Char} (enough : cs.length < m) (enough' : cs.length < n) :
    readWith d m cs = readWith d n cs := by
  induction m generalizing n cs with
  | zero => omega
  | succ m ih =>
    cases n with
    | zero => omega
    | succ n =>
      simp only [readWith]
      refine List.map_congr_left fun run inRuns => List.map_congr_left fun o inRun => ?_
      have short := length_operands 0 _ run inRuns o inRun
      rw [lexemeText, lexemeText, flatMap_text_lexemes] at short
      refine factor_congr fun operand bound => atom_congr fun inner shorter => ih ?_ ?_
      all_goals
        rw [lexemeText] at bound
        omega

theorem reading_eq (d : Dialect) (cs : List Char) :
    reading d cs = (operands 0 (lexemes d (.outside 0) cs)).map (·.map (factor (atom d (reading d)))) := by
  rw [reading, readWith]
  refine List.map_congr_left fun run inRuns => List.map_congr_left fun o inRun => ?_
  have short := length_operands 0 _ run inRuns o inRun
  rw [lexemeText, lexemeText, flatMap_text_lexemes] at short
  refine factor_congr fun operand bound => atom_congr fun inner shorter => readWith_eq ?_ ?_
  all_goals
    rw [lexemeText] at bound
    omega

theorem more_more (ls ms : List Lexeme) (runs : List (List (List Lexeme))) :
    more ls (more ms runs) = more (ls ++ ms) runs := by
  match runs with
  | [] => rfl
  | [] :: _ => rfl
  | (first :: _) :: _ => simp [more]

theorem more_nil (runs : List (List (List Lexeme))) : more [] runs = runs := by
  match runs with
  | [] => rfl
  | [] :: _ => rfl
  | (_ :: _) :: _ => rfl

theorem operands_append {m n : Nat} {ls : List Lexeme} (paired : unpaired m ls = some n) (rest : List Lexeme) :
    operands m (ls ++ rest) = more ls (operands n rest) := by
  induction ls generalizing m with
  | nil =>
    cases paired
    exact (more_nil _).symm
  | cons l ls ih =>
    have joined (k : Nat) (left : unpaired k ls = some n) :
        more [l] (operands k (ls ++ rest)) = more (l :: ls) (operands n rest) := by
      rw [ih left, more_more]
      rfl
    simp only [unpaired, List.cons_append, operands] at paired ⊢
    cases keyword : l.keyword? with
    | none =>
      simp only [keyword] at paired ⊢
      exact joined _ paired
    | some word =>
      cases word with
      | not | between =>
        simp only [keyword] at paired ⊢
        exact joined _ paired
      | and =>
        simp only [keyword] at paired ⊢
        split at paired
        · cases paired
        · rename_i within
          rw [if_neg within]
          exact joined _ paired
      | or => simp [keyword] at paired

end SqlCompiler
