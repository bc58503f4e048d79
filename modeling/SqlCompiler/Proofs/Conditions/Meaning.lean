import Mathlib.Data.List.SplitBy
import SqlCompiler.Proofs.Conditions.Reading
import SqlCompiler.Proofs.Conditions.Subqueries
import SqlCompiler.Proofs.Retention.Nested
import SqlCompiler.Proofs.Retention.Parts

namespace SqlCompiler

/-- Clauses as they are built, one condition after the other. -/
inductive Clause.Built : Clause → Prop
  | empty : Clause.Built []
  | add {clause : Clause} {condition : Condition} (conjunction : Conjunction) (negated : Bool)
    (simple : ∀ inner, condition ≠ .nested inner) (built : Clause.Built clause) :
    Clause.Built (clause.add condition conjunction negated)
  | addClause {clause inner : Clause} (conjunction : Conjunction) (negated : Bool) (built : Clause.Built clause)
    (within : Clause.Built inner) : Clause.Built (clause.addClause inner conjunction negated)

section

variable {clause inner : Clause} {P : Predicate → Prop} {condition : Condition} {conjunction : Conjunction}
  {negated : Bool}

theorem Clause.forall_mem_add (before : ∀ p ∈ clause, P p) (last : P ⟨condition, conjunction, negated⟩) :
    ∀ p ∈ clause.add condition conjunction negated, P p := by
  intro p member
  rcases List.mem_append.mp member with inClause | new
  · exact before p inClause
  · rwa [List.mem_singleton.mp new]

theorem Clause.forall_mem_addClause (before : ∀ p ∈ clause, P p)
    (last : inner ≠ [] → P ⟨.nested inner, conjunction, negated⟩) :
    ∀ p ∈ clause.addClause inner conjunction negated, P p := by
  unfold Clause.addClause
  split
  · exact before
  · rename_i filled
    exact Clause.forall_mem_add before (last (by simpa using filled))

end

theorem Clause.Built.nested {clause : Clause} (built : clause.Built) :
    ∀ p ∈ clause, ∀ inner, p.condition = .nested inner → inner ≠ [] ∧ Clause.Built inner := by
  induction built with
  | empty => simp
  | add conjunction negated simple _ ih =>
    exact Clause.forall_mem_add ih fun inner same => absurd same (simple inner)
  | addClause conjunction negated _ within ih =>
    refine Clause.forall_mem_addClause ih fun filled inner same => ?_
    cases same
    exact ⟨filled, within⟩

namespace Formula

def negate : Bool → Formula → Formula
  | false, f => f
  | true, f => .not f

/-- The longest stretches that `AND` joins. The word in front of the first formula joins nothing. -/
def runs (tests : List (Conjunction × Formula)) : List (List Formula) :=
  (tests.splitBy fun _ next => next.1 = .and).map (·.map Prod.snd)

end Formula

mutual

/-- What a condition says: a clause within a clause is a group, and any other text says what it says on its own. -/
def Condition.formula (t : Target) : Condition → Except Error Formula
  | .nested clause => do
    let tests ← predicateFormulas t clause
    return .group (Formula.runs tests)
  | condition => do
    let test ← condition.sql t
    return t.dialect.operand test.text

def Predicate.formula (t : Target) : Predicate → Except Error (Conjunction × Formula)
  | ⟨condition, conjunction, negated⟩ => do
    let f ← condition.formula t
    return (conjunction, .negate negated f)

def predicateFormulas (t : Target) : List Predicate → Except Error (List (Conjunction × Formula))
  | [] => .ok []
  | item :: rest => do
    let first ← item.formula t
    let later ← predicateFormulas t rest
    return first :: later

end

def Clause.formula (t : Target) (clause : Clause) : Except Error (List (List Formula)) := do
  return Formula.runs (← predicateFormulas t clause)

section

variable {d : Dialect}

theorem trim_cons {c : Char} (blank : Text.isBlank c) (cs : List Char) : Text.trim (c :: cs) = Text.trim cs := by
  simp [Text.trim, Text.trimStart, blank]

theorem trim_append_blanks {blanks : List Char} (all : ∀ c ∈ blanks, Text.isBlank c) (cs : List Char) :
    Text.trim (cs ++ blanks) = Text.trim cs := by
  induction cs with
  | nil =>
    induction blanks with
    | nil => rfl
    | cons c cs ih =>
      rw [List.nil_append, trim_cons (all c (by simp))]
      exact ih fun other member => all other (List.mem_cons_of_mem _ member)
  | cons c cs ih =>
    by_cases blank : Text.isBlank c
    · rw [List.cons_append, trim_cons blank, trim_cons blank, ih]
    · have none := Text.trimEnd_eq_nil_iff.mpr all
      have whole (ds : List Char) : Text.trim (c :: ds) = Text.trimEnd (c :: ds) := by
        simp [Text.trim, Text.trimStart, blank]
      rw [List.cons_append, whole, whole, ← List.cons_append, Text.trimEnd_append, if_pos none]

theorem atom_of_trim {within : List Char → List (List Formula)} {cs ds : List Char}
    (same : Text.trim cs = Text.trim ds) : atom d within cs = atom d within ds := by simp only [atom, same]

def Blanks (ls : List Lexeme) : Prop := ∀ l ∈ ls, l.isBlank

theorem blanks_nil : Blanks [] := by simp [Blanks]

theorem blanks_space : Blanks [.other ' '] := by
  intro l member
  rw [List.mem_singleton.mp member]
  rfl

theorem Blanks.text {ls : List Lexeme} (blanks : Blanks ls) : ∀ c ∈ lexemeText ls, Text.isBlank c := by
  intro c member
  obtain ⟨l, inLexemes, inText⟩ := List.mem_flatMap.mp member
  have blank := blanks l inLexemes
  cases l with
  | word cs => cases blank
  | other x =>
    rw [Lexeme.text, List.mem_singleton] at inText
    rwa [inText]

theorem factor_blanks {read : List Char → Formula} {blanks : List Lexeme} (all : Blanks blanks) (ls : List Lexeme) :
    factor read (blanks ++ ls) = factor read ls := by
  induction blanks with
  | nil => rfl
  | cons l blanks ih =>
    rw [List.cons_append, factor, if_pos (all l (by simp))]
    exact ih fun other member => all other (List.mem_cons_of_mem _ member)

theorem unnegated_append {ls blanks : List Lexeme} (unnegated : Lexeme.unnegated ls = true) (all : Blanks blanks) :
    Lexeme.unnegated (ls ++ blanks) = true := by
  induction ls with
  | nil =>
    induction blanks with
    | nil => rfl
    | cons l blanks ih =>
      rw [List.nil_append, Lexeme.unnegated, if_pos (all l (by simp))]
      exact ih fun other member => all other (List.mem_cons_of_mem _ member)
  | cons l ls ih =>
    simp only [List.cons_append, Lexeme.unnegated] at unnegated ⊢
    split at unnegated
    · rename_i blank
      rw [if_pos blank]
      exact ih unnegated
    · rename_i blank
      rw [if_neg blank]
      exact unnegated

theorem factor_unnegated {within : List Char → List (List Formula)} {ls : List Lexeme}
    (unnegated : Lexeme.unnegated ls = true) : factor (atom d within) ls = atom d within (lexemeText ls) := by
  induction ls with
  | nil => rfl
  | cons l ls ih =>
    simp only [Lexeme.unnegated] at unnegated
    rw [factor]
    split at unnegated
    · rename_i blank
      have text : lexemeText (l :: ls) = lexemeText [l] ++ lexemeText ls := by simp [lexemeText]
      have skipped : atom d within (lexemeText (l :: ls)) = atom d within (lexemeText ls) := by
        apply atom_of_trim
        cases l with
        | word cs => cases blank
        | other c => exact trim_cons blank _
      rw [if_pos blank, ih unnegated, skipped]
    · rename_i blank
      have other : l.keyword? ≠ some .not := by simpa using unnegated
      rw [if_neg blank, if_neg other]

theorem factor_stands {own : String} (stands : d.Stands true own) (negated : Bool) {front back : List Lexeme}
    (before : Blanks front) (behind : Blanks back) :
    factor (atom d (reading d)) (front ++ lexemes d (.outside 0) (notWord negated ++ own).toList ++ back) =
      Formula.negate negated (d.operand own) := by
  have alone : factor (atom d (reading d)) (lexemes d (.outside 0) own.toList ++ back) = d.operand own := by
    rw [factor_unnegated (unnegated_append (stands.unnegated rfl) behind), Dialect.operand]
    apply atom_of_trim
    have text : lexemeText (lexemes d (.outside 0) own.toList ++ back) = own.toList ++ lexemeText back := by
      rw [lexemeText, List.flatMap_append, flatMap_text_lexemes, lexemeText]
    rw [text, trim_append_blanks behind.text]
  rw [List.append_assoc, factor_blanks before]
  cases negated with
  | false =>
    have text : (notWord false ++ own).toList = own.toList := by simp [notWord]
    rw [text]
    exact alone
  | true =>
    have word : lexemes d (.outside 0) "NOT ".toList = [.word "NOT".toList, .other ' '] := by cases d <;> rfl
    have walked : walk d (.outside 0) "NOT ".toList = some (.outside 0) := by cases d <;> rfl
    have text : (notWord true ++ own).toList = "NOT ".toList ++ own.toList := String.toList_append
    rw [text, lexemes_append walked fun _ => .inl rfl, word]
    have negation : (Lexeme.word "NOT".toList).keyword? = some .not := by decide
    simp only [List.cons_append, List.nil_append]
    rw [factor, if_neg (by simp [Lexeme.isBlank]), if_pos negation]
    exact congrArg Formula.not ((factor_blanks blanks_space _).trans alone)

def Renders (d : Dialect) (test : Conjunction × Sql) (f : Conjunction × Formula) : Prop :=
  ∃ negated own, test.1 = f.1 ∧ test.2.text = notWord negated ++ own ∧ d.Stands true own ∧
    f.2 = Formula.negate negated (d.operand own)

theorem Renders.spans {test : Conjunction × Sql} {f : Conjunction × Formula} (renders : Renders d test f) :
    d.Spans true 0 test.2.text 0 := by
  obtain ⟨negated, own, _, text, stands, _⟩ := renders
  rw [text]
  exact stands.spans.afterNot negated

theorem Renders.factor {test : Conjunction × Sql} {f : Conjunction × Formula} (renders : Renders d test f)
    {front back : List Lexeme} (before : Blanks front) (behind : Blanks back) :
    factor (atom d (reading d)) (front ++ lexemes d (.outside 0) test.2.text.toList ++ back) = f.2 := by
  obtain ⟨negated, own, _, text, stands, formula⟩ := renders
  rw [text, formula]
  exact factor_stands stands negated before behind

theorem unpaired_blanks {blanks : List Lexeme} (all : Blanks blanks) (n : Nat) : unpaired n blanks = some n := by
  induction blanks with
  | nil => rfl
  | cons l blanks ih =>
    have blank := all l (by simp)
    cases l with
    | word cs => cases blank
    | other c =>
      have later := ih fun other member => all other (List.mem_cons_of_mem _ member)
      simpa [unpaired, Lexeme.keyword?] using later

theorem runs_or (f : Conjunction × Formula) (g : Formula) (rest : List (Conjunction × Formula)) :
    Formula.runs (f :: (.or, g) :: rest) = [f.2] :: Formula.runs ((.or, g) :: rest) := by
  have cut := List.splitBy_append_cons (r := fun _ next : Conjunction × Formula => decide (next.1 = .and)) (l := [f])
    (a := (.or, g)) rest (by simp)
  simp only [List.singleton_append] at cut
  rw [Formula.runs, cut]
  rfl

theorem runs_and (f : Conjunction × Formula) (g : Formula) (rest : List (Conjunction × Formula)) :
    Formula.runs (f :: (.and, g) :: rest) = (Formula.runs ((.and, g) :: rest)).modifyHead (f.2 :: ·) := by
  unfold Formula.runs
  obtain ⟨whole, filled, chains, apart⟩ := List.splitBy_eq_iff.mp (Eq.refl
    (((Conjunction.and, g) :: rest).splitBy fun _ next : Conjunction × Formula => decide (next.1 = .and)))
  generalize ((Conjunction.and, g) :: rest).splitBy (fun _ next => decide (next.1 = .and)) = cut
    at whole filled chains apart
  match cut with
  | [] => cases whole
  | [] :: _ => simp at filled
  | (first :: run) :: later =>
    have same : first = (.and, g) := (List.cons.inj whole).1.symm
    have longer : (f :: (Conjunction.and, g) :: rest).splitBy (fun _ next => decide (next.1 = .and)) =
        (f :: first :: run) :: later := by
      refine List.splitBy_eq_iff.mpr ⟨by rw [whole]; rfl, by simpa using filled, ?_, ?_⟩
      · rw [List.forall_mem_cons] at chains ⊢
        exact ⟨chains.1.cons_cons (by simp [same]), chains.2⟩
      · cases later with
        | nil => exact .singleton _
        | cons next later =>
          rw [List.isChain_cons_cons] at apart ⊢
          obtain ⟨⟨_, nonempty, stops⟩, rest⟩ := apart
          exact ⟨⟨by simp, nonempty, by simpa using stops⟩, rest⟩
    rw [longer]
    rfl

theorem lexemes_conjunction (word : Conjunction) :
    walk d (.outside 0) (" " ++ word.sql ++ " ").toList = some (.outside 0) ∧
      lexemes d (.outside 0) (" " ++ word.sql ++ " ").toList = [.other ' ', .word word.sql.toList, .other ' '] ∧
      startsApart (" " ++ word.sql ++ " ").toList ∧ endsApart (" " ++ word.sql ++ " ").toList := by
  cases word <;> cases d <;> exact ⟨rfl, rfl, rfl, rfl⟩

theorem operands_conjunction (word : Conjunction) (rest : List Lexeme) :
    operands 0 (.word word.sql.toList :: rest) =
      match word with
      | .and => (operands 0 rest).modifyHead ([] :: ·)
      | .or => [[]] :: operands 0 rest := by
  cases word <;> rfl

theorem map_more_cons (read : List Lexeme → Formula) (ls : List Lexeme) (runs : List (List (List Lexeme))) :
    (more ls (runs.modifyHead ([] :: ·))).map (·.map read) = (runs.map (·.map read)).modifyHead (read ls :: ·) := by
  cases runs with
  | nil => rfl
  | cons run later => simp [more]

/-- The tests of a clause are read as they were joined, whatever blanks stand around them. -/
theorem operands_joinConditions {tests : List (Conjunction × Sql)} {fs : List (Conjunction × Formula)}
    (all : List.Forall₂ (Renders d) tests fs) (nonempty : tests ≠ []) {front back : List Lexeme} (before : Blanks front)
    (behind : Blanks back) :
    (operands 0 (front ++ lexemes d (.outside 0) (joinConditions tests).text.toList ++ back)).map
      (·.map (factor (atom d (reading d)))) = Formula.runs fs := by
  -- What is in front stays general: behind a conjunction the next test has a blank there.
  induction all generalizing front with
  | nil => exact absurd rfl nonempty
  | @cons test f tests fs first later ih =>
    have paired (ls : List Lexeme) (blanks : Blanks ls) :
        unpaired 0 (front ++ lexemes d (.outside 0) test.2.text.toList ++ ls) = some 0 := by
      simp [unpaired_append, unpaired_blanks before, first.spans.paired rfl, unpaired_blanks blanks]
    cases later with
    | nil =>
      have single := operands_append (paired back behind) []
      rw [List.append_nil] at single
      have text : (joinConditions [test]).text = test.2.text := rfl
      have operand := first.factor before behind
      rw [text, single]
      simp only [operands, more, List.modifyHead_cons, List.append_nil, List.map_cons, List.map_nil, operand]
      rfl
    | @cons next g tests fs second later =>
      have rest := ih (by simp) blanks_space
      obtain ⟨walked, word, starts, ends⟩ := lexemes_conjunction (d := d) next.1
      have text : (joinConditions (test :: next :: tests)).text.toList =
          test.2.text.toList ++ (" " ++ next.1.sql ++ " ").toList ++ (joinConditions (next :: tests)).text.toList := by
        simp [joinConditions]
      have operand := first.factor before blanks_space
      rw [text, lexemes_link first.spans.walked walked (fun _ => starts) ends, word]
      generalize lexemes d (.outside 0) test.2.text.toList = own at paired operand ⊢
      generalize lexemes d (.outside 0) (joinConditions (next :: tests)).text.toList = others at rest ⊢
      have cut : front ++ (own ++ [.other ' ', .word next.1.sql.toList, .other ' '] ++ others) ++ back =
          front ++ own ++ [.other ' '] ++ .word next.1.sql.toList :: ([.other ' '] ++ others ++ back) := by simp
      rw [cut, operands_append (paired _ blanks_space), operands_conjunction]
      have same : next.1 = g.1 := by
        obtain ⟨_, _, same, _⟩ := second
        exact same
      obtain ⟨conjunction, formula⟩ := g
      rw [same]
      cases conjunction with
      | and =>
        rw [runs_and, ← rest, ← operand]
        exact map_more_cons _ _ _
      | or =>
        rw [runs_or, ← rest, ← operand]
        simp [more]

theorem meaning_joinConditions {tests : List (Conjunction × Sql)} {fs : List (Conjunction × Formula)}
    (all : List.Forall₂ (Renders d) tests fs) (nonempty : tests ≠ []) :
    d.meaning (joinConditions tests).text = Formula.runs fs := by
  have whole := operands_joinConditions all nonempty blanks_nil blanks_nil
  rw [Dialect.meaning, reading_eq]
  simpa using whole

theorem parenthesized?_closed {inner : List Char} (walked : walk d (.outside 0) inner = some (.outside 0)) :
    parenthesized? d ('(' :: inner ++ [')']) = some inner := by
  simp [parenthesized?, walked]

theorem trim_parentheses (inner : List Char) : Text.trim ('(' :: inner ++ [')']) = '(' :: inner ++ [')'] := by
  have opens : Text.isBlank '(' = false := by decide
  have closes : Text.trimEnd [')'] = [')'] := by decide
  have starts : Text.trimStart ('(' :: inner ++ [')']) = '(' :: inner ++ [')'] := by simp [Text.trimStart, opens]
  rw [Text.trim, starts, Text.trimEnd_append, closes, if_neg (by simp)]

theorem closed_of_renders {tests : List (Conjunction × Sql)} {fs : List (Conjunction × Formula)}
    (all : List.Forall₂ (Renders d) tests fs) : ∀ test ∈ tests, test.2.Closed d := by
  induction all with
  | nil => simp
  | cons first _ ih => exact List.forall_mem_cons.mpr ⟨first.spans.closed, ih⟩

theorem operand_nested {tests : List (Conjunction × Sql)} {fs : List (Conjunction × Formula)}
    (all : List.Forall₂ (Renders d) tests fs) (nonempty : tests ≠ []) (closed : (joinConditions tests).Closed d) :
    d.operand ("( " ++ (joinConditions tests).text ++ " )") = .group (Formula.runs fs) := by
  have whole := operands_joinConditions all nonempty blanks_space blanks_space
  have walked := closed.walked
  have text : ("( " ++ (joinConditions tests).text ++ " )").toList =
      '(' :: ([' '] ++ (joinConditions tests).text.toList ++ [' ']) ++ [')'] := by simp
  generalize (joinConditions tests).text.toList = inner at whole walked text
  have blank : walk d (.outside 0) [' '] = some (.outside 0) ∧ lexemes d (.outside 0) [' '] = [.other ' '] := by
    cases d <;> exact ⟨rfl, rfl⟩
  have front : walk d (.outside 0) ([' '] ++ inner) = some (.outside 0) := by
    rw [walk_append, blank.1, Option.bind_some, walked]
  have around : walk d (.outside 0) ([' '] ++ inner ++ [' ']) = some (.outside 0) := by
    rw [walk_append, front, Option.bind_some, blank.1]
  have within : lexemes d (.outside 0) ([' '] ++ inner ++ [' ']) =
      [.other ' '] ++ lexemes d (.outside 0) inner ++ [.other ' '] := by
    rw [lexemes_append front fun _ => .inr rfl, lexemes_append blank.1 fun _ => .inl rfl, blank.2]
  rw [Dialect.operand, atom, text, trim_parentheses, parenthesized?_closed around]
  simp only
  rw [reading_eq, within, whole]

end

theorem Agree.and {α β : Type} {P : α → Prop} {R : α → β → Prop} {first : Except Error α} {second : Except Error β}
    (agree : Agree R first second) (compiles : Compiles P first) : Agree (fun a b => P a ∧ R a b) first second := by
  cases agree with
  | ok related =>
    cases compiles with
    | ok holds => exact .ok ⟨holds, related⟩
  | error e => exact .error e

theorem Condition.formula_simple {t : Target} {c : Condition} (simple : ∀ inner, c ≠ .nested inner) :
    Agree (fun test f => f = t.dialect.operand test.text) (c.sql t) (c.formula t) := by
  have reads : c.formula t = c.sql t >>= fun test => Pure.pure (t.dialect.operand test.text) := by
    cases c with
    | nested inner => exact absurd rfl (simple inner)
    | _ => rfl
  rw [reads]
  cases c.sql t with
  | ok test => exact .ok rfl
  | error e => exact .error e

mutual

theorem Condition.formula_agrees {t : Target} : ∀ c : Condition, c.Whole t true →
    (∀ inner, c = .nested inner → inner ≠ [] ∧ Clause.Built inner) →
    Agree (fun test f => f = t.dialect.operand test.text) (c.sql t) (c.formula t)
  | .nested clause, whole, filled => by
    have ⟨_, _, _, _, all⟩ := whole
    have ⟨nonempty, built⟩ := filled clause rfl
    apply (predicateFormulas_agree clause all built.nested).map
    rintro tests fs ⟨same, renders⟩
    have members : tests ≠ [] := by
      rintro rfl
      exact nonempty (List.length_eq_zero_iff.mp same.symm)
    rw [Sql.text_append, Sql.text_append, Sql.text_ofText, Sql.text_ofText,
      operand_nested renders members (joinConditions_closed (closed_of_renders renders))]
  | .hasRows _, _, _ | .inQuery .., _, _ | .compareQuery .., _, _ | .compare .., _, _ | .compareColumns .., _, _
  | .raw .., _, _ | .isNull .., _, _ | .datePart .., _, _ | .inList .., _, _ | .between .., _, _
  | .betweenColumns .., _, _ | .compareRow .., _, _ | .jsonContains .., _, _ | .jsonHasKey .., _, _
  | .jsonLength .., _, _ | .fullText .., _, _ => Condition.formula_simple nofun

theorem predicateFormulas_agree {t : Target} : ∀ clause : List Predicate, (∀ p ∈ clause, p.condition.Whole t true) →
    (∀ p ∈ clause, ∀ inner, p.condition = .nested inner → inner ≠ [] ∧ Clause.Built inner) →
    Agree (fun tests fs => tests.length = clause.length ∧ List.Forall₂ (Renders t.dialect) tests fs)
      (predicateSqls t clause) (predicateFormulas t clause)
  | [], _, _ => .ok ⟨rfl, .nil⟩
  | ⟨condition, conjunction, negated⟩ :: rest, whole, filled => by
    have ⟨head, tail⟩ := List.forall_mem_cons.mp whole
    have ⟨headFilled, tailFilled⟩ := List.forall_mem_cons.mp filled
    have formula := (Condition.formula_agrees condition head headFilled).and (condition.sql_stands_within head)
    have first : Agree (Renders t.dialect) (Predicate.sql t ⟨condition, conjunction, negated⟩)
        (Predicate.formula t ⟨condition, conjunction, negated⟩) := by
      apply formula.map
      rintro test f ⟨stands, rfl⟩
      exact ⟨negated, test.text, rfl, by simp, stands, rfl⟩
    apply first.bind
    intro test f renders
    apply (predicateFormulas_agree rest tail tailFilled).map
    rintro tests fs ⟨same, all⟩
    exact ⟨by simp [same], .cons renders all⟩

end

inductive Clause.Within : Clause → Clause → Prop
  | direct {p : Predicate} {inner clause : Clause} (member : p ∈ clause) (nested : p.condition = .nested inner) :
    Clause.Within inner clause
  | deeper {inner middle clause : Clause} (within : Clause.Within inner middle)
    (outer : Clause.Within middle clause) : Clause.Within inner clause

theorem Clause.Built.within {inner clause : Clause} (within : inner.Within clause) (built : clause.Built) :
    inner ≠ [] ∧ inner.Built := by
  induction within with
  | direct member nested => exact built.nested _ member _ nested
  | deeper _ _ innermost outermost => exact innermost (outermost built).2

theorem Clause.sql_first {t : Target} {p : Predicate} {rest : Clause} {s : Sql}
    (compiled : Clause.sql t (p :: rest) = .ok s) (conjunction : Conjunction) :
    Clause.sql t ({ p with conjunction } :: rest) = .ok s := by
  obtain ⟨condition, word, negated⟩ := p
  have same : Clause.sql t (⟨condition, conjunction, negated⟩ :: rest) =
      Clause.sql t (⟨condition, word, negated⟩ :: rest) := by
    simp only [Clause.sql, predicateSqls, Predicate.sql]
    cases condition.sql t with
    | error e => rfl
    | ok test =>
      cases predicateSqls t rest with
      | error e => rfl
      | ok tests => cases tests <;> rfl
  exact same.trans compiled

/-- The text of a clause is closed and says what the clause says; no clause within it is empty, and the word in front
of the first condition says nothing. -/
theorem Clause.meaning_sql {t : Target} {clause : Clause} (built : clause.Built)
    (whole : ∀ p ∈ clause, p.condition.Whole t true) {s : Sql} (compiled : clause.sql t = .ok s) :
    t.dialect.Closed s.text ∧
    (clause = [] → s.text = "") ∧
    (clause ≠ [] → clause.formula t = .ok (t.dialect.meaning s.text)) ∧
    (∀ inner : Clause, inner.Within clause → inner ≠ []) ∧
    ∀ p rest conjunction, clause = p :: rest → Clause.sql t ({ p with conjunction } :: rest) = .ok s := by
  have agree := predicateFormulas_agree clause whole built.nested
  obtain ⟨tests, found, rfl⟩ := ok_of_map compiled
  rw [found] at agree
  cases formulas : predicateFormulas t clause with
  | error e =>
    rw [formulas] at agree
    cases agree
  | ok fs =>
    rw [formulas] at agree
    cases agree with
    | ok related =>
      obtain ⟨same, renders⟩ := related
      have inner {inner : Clause} (within : inner.Within clause) := (built.within within).1
      refine ⟨joinConditions_closed (closed_of_renders renders), ?_, ?_, fun _ => inner, ?_⟩
      · rintro rfl
        rw [List.length_eq_zero_iff.mp same]
        rfl
      · intro nonempty
        have members : tests ≠ [] := by
          rintro rfl
          exact nonempty (List.length_eq_zero_iff.mp same.symm)
        rw [meaning_joinConditions renders members, Clause.formula, formulas]
        rfl
      · rintro p rest conjunction rfl
        exact Clause.sql_first compiled conjunction

def seniors : Clause :=
  let outside := Clause.add (Clause.add [] (.between "age" (.value (.int 30)) (.value (.int 65)) true) .or false)
    (.raw "team = 'R OR D'" []) .and false
  Clause.add (Clause.addClause (Clause.add [] (.compare "name" .eq (.value (.text "Ann"))) .and false) outside .or true)
    (.compare "meta->rank" .gt (.value (.int 3))) .and false

theorem seniors_meaning :
    let t : Target := { dialect := .sqlite }
    let text := "\x22name\x22 = ? OR NOT ( \x22age\x22 NOT BETWEEN ? AND ? AND team = 'R OR D' ) AND " ++
      "JSON_EXTRACT(\x22meta\x22, '$.\x22rank\x22') > ?"
    seniors.Built ∧ (∀ p ∈ seniors, p.condition.Whole t true) ∧ (∃ s, seniors.sql t = .ok s ∧ s.text = text) ∧
    seniors.formula t = .ok (t.dialect.meaning text) ∧
    t.dialect.meaning text = [[.test "\x22name\x22 = ?"],
      [.not (.group [[.test "\x22age\x22 NOT BETWEEN ? AND ?", .test "team = 'R OR D'"]]),
        .test "JSON_EXTRACT(\x22meta\x22, '$.\x22rank\x22') > ?"]] := by
  intro t text
  have built : seniors.Built :=
    .add .and false (by simp) (.addClause .or true (.add .and false (by simp) .empty)
      (.add .and false (by simp) (.add .or false (by simp) .empty)))
  have plain (name : String) (none : Text.pathSteps name = []) : t.Shelters name := .inr (by simp [none])
  have path : t.Shelters "meta->rank" := by
    have steps : Text.pathSteps "meta->rank" = ["rank"] := by decide +kernel
    refine .inr fun step member => ?_
    obtain rfl : step = "rank" := by simpa [steps] using member
    exact ⟨fun escapes => absurd escapes (by decide), staysInside_nil⟩
  have valued (c : Condition) (names : ∀ name ∈ c.columns, t.Shelters name)
      (values : ∀ value ∈ c.operands, value.Fits t.dialect true) (simple : c.subquery? = none ∧ c.clause = [])
      (built : ∀ sql values, c ≠ .raw sql values) : c.Whole t true :=
    .intro names values (fun _ _ same => absurd same (built _ _)) (by simp [simple]) (by simp [simple])
  have whole : ∀ p ∈ seniors, p.condition.Whole t true := by
    refine Clause.forall_mem_add (Clause.forall_mem_addClause (Clause.forall_mem_add (by simp) ?_) fun _ => ?_) ?_
    · have names : ∀ name ∈ ["name"], t.Shelters name := by simp [plain "name" (by decide +kernel)]
      exact valued _ names (by simp [Condition.operands, Operand.Fits]) ⟨rfl, rfl⟩ (by simp)
    · refine .intro (by simp [Condition.columns]) (by simp [Condition.operands]) (by simp)
        (by simp [Condition.subquery?]) (Clause.forall_mem_add (Clause.forall_mem_add (by simp) ?_) ?_)
      · have names : ∀ name ∈ ["age"], t.Shelters name := by simp [plain "age" (by decide +kernel)]
        exact valued _ names (by simp [Condition.operands, Operand.Fits]) ⟨rfl, rfl⟩ (by simp)
      · refine .intro (by simp [Condition.columns]) (by simp [Condition.operands]) ?_ (by simp [Condition.subquery?])
          (by simp [Condition.clause])
        rintro _ _ ⟨⟩
        exact ⟨.scan rfl rfl, fun _ => rfl⟩
    · have names : ∀ name ∈ ["meta->rank"], t.Shelters name := by simp [path]
      exact valued _ names (by simp [Condition.operands, Operand.Fits]) ⟨rfl, rfl⟩ (by simp)
  obtain ⟨s, compiled, same⟩ : ∃ s, seniors.sql t = .ok s ∧ s.text == text := ok_of_any _ (by decide +kernel)
  rw [beq_iff_eq] at same
  obtain ⟨_, _, means, _, _⟩ := Clause.meaning_sql built whole compiled
  refine ⟨built, whole, ⟨s, compiled, same⟩, same ▸ means (by simp [seniors, Clause.add]), ?_⟩
  subst t text
  rfl

/-- An index that closes the literal of its path, and opens another one behind an `OR`. -/
theorem index_splits_condition :
    let t : Target := { dialect := .sqlite }
    let clause := Clause.add [] (.compare "meta->a[') OR (']" .eq (.value (.int 1))) .and false
    let text := "JSON_EXTRACT(\x22meta\x22, '$.\x22a\x22[') OR (']') = ?"
    clause.Built ∧ (∃ s, clause.sql t = .ok s ∧ s.text = text) ∧ t.dialect.Closed text ∧
    clause.formula t = .ok [[.test text]] ∧
    t.dialect.meaning text = [[.test "JSON_EXTRACT(\x22meta\x22, '$.\x22a\x22[')"], [.test "(']') = ?"]] ∧
    clause.formula t ≠ .ok (t.dialect.meaning text) := by
  intro t clause text
  obtain ⟨s, compiled, same⟩ : ∃ s, Condition.sql t (.compare "meta->a[') OR (']" .eq (.value (.int 1))) = .ok s ∧
      s.text == text := ok_of_any _ (by decide +kernel)
  rw [beq_iff_eq] at same
  have written : clause.sql t = .ok (notWord false ++ s) := by
    simp only [clause, Clause.add, List.nil_append, Clause.sql, predicateSqls, Predicate.sql, compiled]
    rfl
  have formula : clause.formula t = .ok [[.test text]] := by
    have operand : t.dialect.operand text = .test text := by
      subst t text
      rfl
    simp only [clause, Clause.add, List.nil_append, Clause.formula, predicateFormulas, Predicate.formula,
      Condition.formula, compiled]
    rw [← operand, ← same]
    rfl
  have means : t.dialect.meaning text =
      [[.test "JSON_EXTRACT(\x22meta\x22, '$.\x22a\x22[')"], [.test "(']') = ?"]] := by
    subst t text
    rfl
  have closed : t.dialect.Closed text := by
    subst t text
    exact ⟨rfl, by simp⟩
  refine ⟨.add .and false (by simp) .empty, ⟨_, written, by simp [notWord, same]⟩, closed, formula, means, ?_⟩
  rw [formula, means]
  simp

end SqlCompiler
