import SqlCompiler.Proofs.Conditions.Lexemes
import SqlCompiler.Select.Paging

namespace SqlCompiler

def firstWord (cs : List Char) : List Char := (Text.trimStart cs).takeWhile isWordChar

def leadingWord (cs : List Char) : List Char × List Char :=
  ((firstWord cs).map Char.toUpper, (Text.trimStart cs).dropWhile isWordChar)

def lead (clause : String) : String := String.ofList (leadingWord clause.toList).1

def pagingWords : List String := ["LIMIT", "OFFSET", "FETCH", "TOP"]

/-- None of the words of a text has to do with paging. -/
def PagesNothing (cs : List Char) : Prop :=
  ∀ word ∈ cs.splitOnP (fun c => !isWordChar c), String.ofList (word.map Char.toUpper) ∉ pagingWords

instance (cs : List Char) : Decidable (PagesNothing cs) := inferInstanceAs (Decidable (∀ word ∈ _, _))

def listWord (list : List Char) : List Char × List Char :=
  if (leadingWord list).1 = "DISTINCT".toList then leadingWord (leadingWord list).2 else leadingWord list

def listTop? (list : List Char) : Option String :=
  if (listWord list).1 = "TOP".toList then some (String.ofList (firstWord (listWord list).2)) else none

/-- The number of rows that a clause with a select list lets through. -/
def topOf? (clause : String) : Option String :=
  if (leadingWord clause.toList).1 = "SELECT".toList then listTop? (leadingWord clause.toList).2 else none

def RightBehind (p r : String → Prop) : Option String → List String → Prop
  | _, [] => True
  | previous, clause :: rest => (p clause → ∃ before ∈ previous, r before) ∧ RightBehind p r (some clause) rest

def IsLimit (clause : String) : Prop := ∃ n : Int, clause = "LIMIT " ++ toString n

def IsSkip (clause : String) : Prop := ∃ n : Nat, clause = "OFFSET " ++ toString n ++ " ROWS"

def IsOrder (fragments : List String) (clause : String) : Prop :=
  ∃ items : List String, items ≠ [] ∧ clause = "ORDER BY " ++ ", ".intercalate items ∧ ("" ∈ items → "" ∈ fragments)

/-- The clauses of one SELECT page its rows as the dialect wants them paged. -/
structure Dialect.Pages (d : Dialect) (fragments : List String) (clauses : List String) : Prop where
  limited : d = .mysql ∨ d = .sqlite → RightBehind (lead · = "OFFSET") IsLimit none clauses
  ordered : d = .sqlServer → RightBehind (lead · = "OFFSET") (IsOrder fragments) none clauses
  fetched : d = .sqlServer → RightBehind (lead · = "FETCH") IsSkip none clauses
  topped : d = .sqlServer → clauses.filterMap topOf? = [] ∨ ∀ clause ∈ clauses, lead clause ≠ "OFFSET"

theorem not_isBlank_of_isWordChar {c : Char} (word : isWordChar c) : Text.isBlank c = false := by
  simp only [isWordChar, Bool.or_eq_true, Bool.and_eq_true, Bool.not_eq_true'] at word
  rcases word with (letter | mark) | ⟨-, visible⟩
  · change (decide (65 ≤ c.val ∧ c.val ≤ 90) || (97 ≤ c.val && c.val ≤ 122) ||
      (48 ≤ c.val && c.val ≤ 57)) = true at letter
    simp only [Bool.or_eq_true, Bool.and_eq_true, decide_eq_true_eq, UInt32.le_iff_toNat_le] at letter
    have code : c.toNat = c.val.toNat := rfl
    simp only [Text.isBlank, Bool.or_eq_false_iff, Bool.and_eq_false_iff, decide_eq_false_iff_not,
      beq_eq_false_iff_ne]
    simp at letter
    omega
  · simp only [List.contains_iff_mem, List.mem_cons, List.not_mem_nil, or_false] at mark
    rcases mark with rfl | rfl | rfl | rfl <;> decide
  · exact visible

theorem trimStart_of_head {cs : List Char} (visible : ∀ c ∈ cs.head?, Text.isBlank c = false) :
    Text.trimStart cs = cs := by
  cases cs with
  | nil => rfl
  | cons c cs => exact List.dropWhile_cons_of_neg (by simp [visible c rfl])

theorem leadingWord_apart {c : Char} (blank : Text.isBlank c = false) (word : isWordChar c = false) (cs : List Char) :
    leadingWord (c :: cs) = ([], c :: cs) := by
  rw [leadingWord, firstWord, trimStart_of_head (by simpa using blank)]
  simp [word]

theorem firstWord_append {word rest : List Char} (filled : word ≠ []) (all : ∀ c ∈ word, isWordChar c)
    (stops : ∀ c ∈ rest.head?, isWordChar c = false) :
    firstWord (word ++ rest) = word ∧ (Text.trimStart (word ++ rest)).dropWhile isWordChar = rest := by
  obtain ⟨c, cs, rfl⟩ := List.exists_cons_of_ne_nil filled
  have visible : Text.isBlank c = false := not_isBlank_of_isWordChar (all c (by simp))
  have taken : rest.takeWhile isWordChar = [] := by
    cases rest with
    | nil => rfl
    | cons c rest => simp [stops c rfl]
  have dropped : rest.dropWhile isWordChar = rest := by
    cases rest with
    | nil => rfl
    | cons c rest => simp [stops c rfl]
  rw [firstWord, trimStart_of_head (by simpa using visible), List.takeWhile_append_of_pos all,
    List.dropWhile_append_of_pos all, taken, dropped, List.append_nil]
  exact ⟨rfl, rfl⟩

theorem leadingWord_append {word rest : List Char} (filled : word ≠ []) (all : ∀ c ∈ word, isWordChar c)
    (stops : ∀ c ∈ rest.head?, isWordChar c = false) :
    leadingWord (word ++ rest) = (word.map Char.toUpper, rest) := by
  obtain ⟨first, behind⟩ := firstWord_append filled all stops
  rw [leadingWord, first, behind]

theorem leadingWord_mark (cs : List Char) {c : Char} (blank : Text.isBlank c = false) (word : isWordChar c = false)
    (rest : List Char) : leadingWord (cs ++ c :: rest) = ((leadingWord cs).1, (leadingWord cs).2 ++ c :: rest) := by
  have trimmed : Text.trimStart (cs ++ c :: rest) = Text.trimStart cs ++ c :: rest := by
    simp only [Text.trimStart, List.dropWhile_append]
    split
    next none => simp [List.isEmpty_iff.mp none, blank]
    next => rfl
  have dropped : (Text.trimStart cs ++ c :: rest).dropWhile isWordChar =
      (Text.trimStart cs).dropWhile isWordChar ++ c :: rest := by
    rw [List.dropWhile_append]
    split
    next none => simp [List.isEmpty_iff.mp none, word]
    next => rfl
  have taken : (Text.trimStart cs ++ c :: rest).takeWhile isWordChar = (Text.trimStart cs).takeWhile isWordChar := by
    rw [List.takeWhile_append]
    split
    next all => simp [word, (List.takeWhile_prefix isWordChar).eq_of_length all]
    next => rfl
  rw [leadingWord, leadingWord, firstWord, firstWord, trimmed, dropped, taken]

theorem PagesNothing.behind {cs rest : List Char} {c : Char} (word : isWordChar c = false)
    (nothing : PagesNothing (cs ++ c :: rest)) : PagesNothing rest := by
  intro w member
  refine nothing w ?_
  rw [List.splitOnP_append_cons cs rest (by simpa using word)]
  exact List.mem_append_right _ member

theorem PagesNothing.trimStart {cs : List Char} (nothing : PagesNothing cs) : PagesNothing (Text.trimStart cs) := by
  induction cs with
  | nil => exact nothing
  | cons c cs ih =>
    cases blank : Text.isBlank c with
    | false => rwa [trimStart_of_head (by simpa using blank)]
    | true =>
      have word : isWordChar c = false := by
        cases word : isWordChar c with
        | false => rfl
        | true => simp [not_isBlank_of_isWordChar word] at blank
      have same : Text.trimStart (c :: cs) = Text.trimStart cs := List.dropWhile_cons_of_pos blank
      exact same ▸ ih (@PagesNothing.behind [] cs c word nothing)

theorem PagesNothing.leading {cs : List Char} (nothing : PagesNothing cs) :
    String.ofList (leadingWord cs).1 ∉ pagingWords ∧ PagesNothing (leadingWord cs).2 := by
  have trimmed := nothing.trimStart
  unfold leadingWord firstWord
  generalize Text.trimStart cs = cs' at trimmed
  have parts : cs'.takeWhile isWordChar ++ cs'.dropWhile isWordChar = cs' := List.takeWhile_append_dropWhile
  have stops := List.head?_dropWhile_not isWordChar cs'
  have word : ∀ c ∈ cs'.takeWhile isWordChar, (!isWordChar c) = false := fun c member => by
    simpa using List.all_eq_true.mp List.all_takeWhile c member
  generalize cs'.takeWhile isWordChar = front at parts word
  generalize cs'.dropWhile isWordChar = rest at parts stops
  subst parts
  have alone : PagesNothing [] := by decide
  cases rest with
  | nil =>
    refine ⟨trimmed front ?_, alone⟩
    rw [List.append_nil, List.splitOnP_eq_singleton word]
    exact List.mem_singleton_self front
  | cons c behind =>
    have stop : (!isWordChar c) = true := by simpa using stops
    refine ⟨trimmed front ?_, fun w member => ?_⟩
    · rw [List.splitOnP_append_cons_of_forall_mem word c stop]
      exact List.mem_cons_self
    · rw [← List.nil_append (c :: behind), List.splitOnP_append_cons [] behind stop] at member
      rcases List.mem_append.mp member with none | later
      · exact alone w none
      · exact trimmed.behind (by simpa using stop) w later

def isCapitals (word : List Char) : Bool := !word.isEmpty && word.all fun c => isWordChar c && c.toUpper == c

theorem leadingWord_capitals {word : List Char} (capitals : isCapitals word) {c : Char} (stop : isWordChar c = false)
    (rest : List Char) : leadingWord (word ++ c :: rest) = (word, c :: rest) := by
  obtain ⟨filled, each⟩ : word ≠ [] ∧ ∀ c ∈ word, isWordChar c ∧ c.toUpper = c := by simpa [isCapitals] using capitals
  have same : word.map Char.toUpper = word := by
    rw [List.map_congr_left fun c member => (each c member).2, List.map_id']
  rw [leadingWord_append filled (fun c member => (each c member).1) (by simpa using stop), same]

theorem leadingWord_blank (cs : List Char) : leadingWord (' ' :: cs) = leadingWord cs := rfl

theorem listWord_blank (cs : List Char) : listWord (' ' :: cs) = listWord cs := rfl

theorem topOf?_select (list : List Char) :
    topOf? (String.ofList ("SELECT".toList ++ ' ' :: list)) = listTop? list := by
  have select := @leadingWord_capitals "SELECT".toList (by decide) ' ' (by decide) list
  rw [topOf?, String.toList_ofList, select, if_pos rfl, listTop?, listTop?, listWord_blank]

theorem listWord_distinct (list : List Char) : listWord ("DISTINCT".toList ++ ' ' :: list) = leadingWord list := by
  have distinct := @leadingWord_capitals "DISTINCT".toList (by decide) ' ' (by decide) list
  rw [listWord, distinct]
  exact leadingWord_blank list

theorem firstWord_digits (n : Nat) (rest : List Char) :
    firstWord (' ' :: (Nat.toDigits 10 n ++ ' ' :: rest)) = Nat.toDigits 10 n := by
  have digits : ∀ c ∈ Nat.toDigits 10 n, isWordChar c := fun c member => by
    simp [isWordChar, Char.isAlphanum, Nat.isDigit_of_mem_toDigits (b := 10) (by decide) (by decide) member]
  exact (@firstWord_append _ (' ' :: rest) Nat.toDigits_ne_nil digits (by simp; decide)).1

/-- No word TOP is read at the head of a select list, with the word DISTINCT before it or without. -/
def Untopped (list : List Char) : Prop := (leadingWord list).1 ≠ "TOP".toList ∧ (listWord list).1 ≠ "TOP".toList

theorem Untopped.listTop?_eq {list : List Char} (untopped : Untopped list) :
    listTop? list = none ∧ listTop? ("DISTINCT".toList ++ ' ' :: list) = none := by
  rw [listTop?, listTop?, listWord_distinct]
  exact ⟨if_neg untopped.2, if_neg untopped.1⟩

theorem listTop?_top (n : Nat) (list : List Char) :
    listTop? ("TOP".toList ++ ' ' :: (Nat.toDigits 10 n ++ ' ' :: list)) = some (toString n) ∧
      listTop? ("DISTINCT".toList ++ ' ' :: ("TOP".toList ++ ' ' :: (Nat.toDigits 10 n ++ ' ' :: list))) =
        some (toString n) := by
  have read := @leadingWord_capitals "TOP".toList (by decide) ' ' (by decide)
    (Nat.toDigits 10 n ++ ' ' :: list)
  have other : "TOP".toList ≠ "DISTINCT".toList := by decide
  have number : String.ofList (Nat.toDigits 10 n) = toString n := Nat.toString_eq_ofList_toDigits.symm
  constructor
  · rw [listTop?, listWord, read, if_neg other, if_pos rfl, firstWord_digits, number]
  · rw [listTop?, listWord_distinct, read, if_pos rfl, firstWord_digits, number]

theorem PagesNothing.untopped {list : List Char} (nothing : PagesNothing list) : Untopped list := by
  have word {cs : List Char} (nothing : PagesNothing cs) : (leadingWord cs).1 ≠ "TOP".toList := fun same =>
    nothing.leading.1 (by rw [same]; decide)
  refine ⟨word nothing, ?_⟩
  unfold listWord
  split
  · exact word nothing.leading.2
  · exact word nothing

theorem untopped_apart {c : Char} (blank : Text.isBlank c = false) (word : isWordChar c = false) (cs : List Char) :
    Untopped (c :: cs) := by
  have read := leadingWord_apart blank word cs
  have top : [] ≠ "TOP".toList := by decide
  have distinct : [] ≠ "DISTINCT".toList := by decide
  rw [Untopped, listWord, read, if_neg distinct]
  exact ⟨top, top⟩

theorem untopped_of_word {word rest : List Char} (read : leadingWord (word ++ rest) = (word, rest))
    (top : word ≠ "TOP".toList) (distinct : word ≠ "DISTINCT".toList) : Untopped (word ++ rest) := by
  rw [Untopped, listWord, read, if_neg distinct]
  exact ⟨top, top⟩

theorem listWord_mark (list : List Char) {c : Char} (blank : Text.isBlank c = false) (word : isWordChar c = false)
    (rest : List Char) : (listWord (list ++ c :: rest)).1 = (listWord list).1 := by
  have read := leadingWord_mark list blank word rest
  have behind := leadingWord_mark (leadingWord list).2 blank word rest
  unfold listWord
  rw [read]
  by_cases distinct : (leadingWord list).1 = "DISTINCT".toList
  · rw [if_pos distinct, if_pos distinct, behind]
  · rw [if_neg distinct, if_neg distinct]

theorem Untopped.append_mark {list : List Char} (untopped : Untopped list) {c : Char} (blank : Text.isBlank c = false)
    (word : isWordChar c = false) (rest : List Char) : Untopped (list ++ c :: rest) := by
  rw [Untopped, leadingWord_mark list blank word, listWord_mark list blank word]
  exact untopped

def LedBy (word text : String) : Prop := ∃ c rest, text.toList = word.toList ++ c :: rest ∧ isWordChar c = false

def openers : List String :=
  ["SELECT", "FROM", "USE", "FORCE", "IGNORE", "INDEXED", "WITH", "INNER", "LEFT", "RIGHT", "CROSS", "OUTER", "WHERE",
    "GROUP", "HAVING", "ORDER", "UNION", "LIMIT", "OFFSET", "FETCH"]

theorem openers_capitals : ∀ word ∈ openers, isCapitals word.toList := by decide

namespace LedBy

variable {word s : String}

theorem append (led : LedBy word s) (rest : String) : LedBy word (s ++ rest) := by
  obtain ⟨c, behind, chars, stop⟩ := led
  exact ⟨c, behind ++ rest.toList, by simp [chars], stop⟩

theorem leadingWord_eq (led : LedBy word s) (member : word ∈ openers) :
    ∃ rest, leadingWord s.toList = (word.toList, rest) := by
  obtain ⟨c, rest, chars, stop⟩ := led
  exact ⟨c :: rest, chars ▸ leadingWord_capitals (openers_capitals word member) stop rest⟩

theorem lead_eq (led : LedBy word s) (member : word ∈ openers) : lead s = word := by
  obtain ⟨rest, same⟩ := led.leadingWord_eq member
  rw [lead, same, String.ofList_toList]

end LedBy

theorem topOf?_of_lead {s : String} (other : lead s ≠ "SELECT") : topOf? s = none := by
  have word : (leadingWord s.toList).1 ≠ "SELECT".toList := fun same => other (by rw [lead, same, String.ofList_toList])
  rw [topOf?, if_neg word]

def Quiet (clause : String) : Prop := lead clause ∉ pagingWords

instance (clause : String) : Decidable (Quiet clause) := inferInstanceAs (Decidable (_ ∉ _))

/-- The clause does not page, and has no limit in a select list either. -/
def Silent (clause : String) : Prop := Quiet clause ∧ topOf? clause = none

instance (clause : String) : Decidable (Silent clause) := inferInstanceAs (Decidable (_ ∧ _))

theorem silent_of_lead {s word : String} (led : lead s = word) (quiet : word ∉ pagingWords) (other : word ≠ "SELECT") :
    Silent s :=
  ⟨by rwa [Quiet, led], topOf?_of_lead (by rwa [led])⟩

theorem untopped_of_silent {clauses : List String} (silent : ∀ clause ∈ clauses, Silent clause) :
    clauses.filterMap topOf? = [] :=
  List.filterMap_eq_nil_iff.mpr fun clause member => (silent clause member).2

namespace RightBehind

variable {p r : String → Prop} {previous : Option String} {front rest : List String}

theorem quiet_append (quiet : ∀ clause ∈ front, ¬ p clause) (later : ∀ previous, RightBehind p r previous rest) :
    RightBehind p r previous (front ++ rest) := by
  induction front generalizing previous with
  | nil => exact later previous
  | cons clause front ih =>
    have ⟨first, others⟩ := List.forall_mem_cons.mp quiet
    exact ⟨fun page => absurd page first, ih others⟩

theorem of_quiet (quiet : ∀ clause ∈ front, ¬ p clause) : RightBehind p r previous front := by
  rw [← List.append_nil front]
  exact quiet_append quiet fun _ => True.intro

theorem append_quiet (first : RightBehind p r previous front) (quiet : ∀ clause ∈ rest, ¬ p clause) :
    RightBehind p r previous (front ++ rest) := by
  induction front generalizing previous with
  | nil => exact of_quiet quiet
  | cons clause front ih => exact ⟨first.1, ih first.2⟩

end RightBehind

theorem limitWord_isLimit (n : UInt64) : IsLimit (Target.limitWord n) := ⟨Int.ofNat n.toNat, rfl⟩

theorem lead_limitWord (n : UInt64) : lead (Target.limitWord n) = "LIMIT" :=
  LedBy.lead_eq (LedBy.append ⟨' ', [], rfl, rfl⟩ _) (by decide)

def skipClause (n : UInt64) : String := "OFFSET " ++ toString n.toNat ++ " ROWS"

def fetchClause (n : UInt64) : String := "FETCH NEXT " ++ toString n.toNat ++ " ROWS ONLY"

theorem lead_skipClause (n : UInt64) : lead (skipClause n) = "OFFSET" :=
  LedBy.lead_eq (LedBy.append (LedBy.append ⟨' ', [], rfl, rfl⟩ _) _) (by decide)

theorem lead_fetchClause (n : UInt64) : lead (fetchClause n) = "FETCH" :=
  LedBy.lead_eq (LedBy.append (LedBy.append ⟨' ', "NEXT ".toList, rfl, rfl⟩ _) _) (by decide)

theorem offsetAndFetch_eq (limit : Option UInt64) (offset : UInt64) :
    Target.offsetAndFetch limit offset = skipClause offset :: (limit.map fetchClause).toList := by
  cases limit <;> rfl

theorem IsOrder.lead_eq {fragments : List String} {clause : String} (order : IsOrder fragments clause) :
    lead clause = "ORDER" := by
  obtain ⟨items, -, rfl, -⟩ := order
  exact LedBy.lead_eq (LedBy.append ⟨' ', "BY ".toList, rfl, rfl⟩ _) (by decide)

namespace Dialect

variable {d : Dialect} {fragments front back : List String}

theorem quiet_facts {clauses : List String} (quiet : ∀ clause ∈ clauses, Quiet clause) :
    (∀ clause ∈ clauses, ¬ lead clause = "OFFSET") ∧ ∀ clause ∈ clauses, ¬ lead clause = "FETCH" := by
  constructor <;> intro clause member same <;> exact quiet clause member (by rw [same]; decide)

theorem pages_of_quiet {clauses : List String} (quiet : ∀ clause ∈ clauses, Quiet clause) :
    d.Pages fragments clauses := by
  obtain ⟨offset, fetch⟩ := quiet_facts quiet
  exact ⟨fun _ => .of_quiet offset, fun _ => .of_quiet offset, fun _ => .of_quiet fetch, fun _ => .inr offset⟩

theorem pages_limited {t : Target} (other : t.dialect ≠ .sqlServer) (quietFront : ∀ clause ∈ front, Quiet clause)
    (quietBack : ∀ clause ∈ back, Quiet clause) (limit offset : Option UInt64) :
    t.dialect.Pages fragments (front ++ t.limitAndOffset limit offset ++ back) := by
  refine ⟨fun known => ?_, fun server => absurd server other, fun server => absurd server other,
    fun server => absurd server other⟩
  refine .append_quiet (.quiet_append (quiet_facts quietFront).1 fun previous => ?_) (quiet_facts quietBack).1
  have unlimited : ∃ clause, t.unlimited = [clause] ∧ IsLimit clause ∧ lead clause = "LIMIT" := by
    rcases known with mysql | sqlite
    · exact ⟨"LIMIT 18446744073709551615", by rw [Target.unlimited, mysql], ⟨18446744073709551615, rfl⟩, by decide⟩
    · exact ⟨"LIMIT -1", by rw [Target.unlimited, sqlite], ⟨-1, rfl⟩, by decide⟩
  obtain ⟨all, alone, isLimit, led⟩ := unlimited
  cases limit with
  | none =>
    cases offset with
    | none => exact True.intro
    | some m =>
      rw [Target.limitAndOffset, alone]
      exact ⟨fun page => absurd (led.symm.trans page) (by decide), fun _ => ⟨all, rfl, isLimit⟩, True.intro⟩
  | some n =>
    have first : lead (Target.limitWord n) = "OFFSET" → ∃ before ∈ previous, IsLimit before :=
      fun page => absurd ((lead_limitWord n).symm.trans page) (by decide)
    cases offset with
    | none => exact ⟨first, True.intro⟩
    | some m => exact ⟨first, fun _ => ⟨_, rfl, limitWord_isLimit n⟩, True.intro⟩

theorem skipping_untopped (silent : ∀ clause ∈ front, Silent clause) {order : String}
    (isOrder : IsOrder fragments order) (limit : Option UInt64) (offset : UInt64) :
    (front ++ order :: Target.offsetAndFetch limit offset).filterMap topOf? = [] := by
  have server : topOf? order = none := topOf?_of_lead (by rw [isOrder.lead_eq]; decide)
  have skipped : topOf? (skipClause offset) = none := topOf?_of_lead (by rw [lead_skipClause]; decide)
  have fetched (n : UInt64) : topOf? (fetchClause n) = none := topOf?_of_lead (by rw [lead_fetchClause]; decide)
  rw [offsetAndFetch_eq, List.filterMap_append, untopped_of_silent silent]
  cases limit <;> simp [server, skipped, fetched]

theorem pages_skipped (silent : ∀ clause ∈ front, Silent clause) {order : String} (isOrder : IsOrder fragments order)
    (limit : Option UInt64) (offset : UInt64) :
    Dialect.sqlServer.Pages fragments (front ++ order :: Target.offsetAndFetch limit offset) := by
  obtain ⟨offsets, fetches⟩ := quiet_facts fun clause member => (silent clause member).1
  have ordered := isOrder.lead_eq
  have skip := lead_skipClause offset
  have tops := skipping_untopped silent isOrder limit offset
  rw [offsetAndFetch_eq] at tops ⊢
  refine ⟨nofun, fun _ => ?_, fun _ => ?_, fun _ => .inl tops⟩
  · refine .quiet_append offsets fun previous => ⟨fun page => ?_, fun _ => ⟨order, rfl, isOrder⟩, .of_quiet ?_⟩
    · exact absurd (ordered.symm.trans page) (by decide)
    · intro clause member page
      obtain ⟨n, -, rfl⟩ := Option.map_eq_some_iff.mp (Option.mem_toList.mp member)
      exact absurd ((lead_fetchClause n).symm.trans page) (by decide)
  · refine .quiet_append fetches fun previous => ⟨fun page => ?_, fun page => ?_, ?_⟩
    · exact absurd (ordered.symm.trans page) (by decide)
    · exact absurd (skip.symm.trans page) (by decide)
    · cases limit with
      | none => exact True.intro
      | some n => exact ⟨fun _ => ⟨_, rfl, offset.toNat, rfl⟩, True.intro⟩

end Dialect

end SqlCompiler
