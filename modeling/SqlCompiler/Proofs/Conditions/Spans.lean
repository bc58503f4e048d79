import SqlCompiler.Proofs.Conditions.Lexemes
import SqlCompiler.Proofs.Placement.Pieces
import SqlCompiler.Proofs.Quoting.DocumentPaths

namespace SqlCompiler

/-- The text leads from one depth of parentheses to another and ends outside quotes. If it has to stand alone, every
`AND` outside its parentheses belongs to a `BETWEEN` there, and there is no `OR`. -/
structure Dialect.Spans (d : Dialect) (alone : Bool) (i : Nat) (s : String) (j : Nat) : Prop where
  walked : walk d (.outside i) s.toList = some (.outside j)
  paired : alone = true → unpaired 0 (lexemes d (.outside i) s.toList) = some 0

abbrev Dialect.Closed (d : Dialect) (s : String) : Prop := d.Spans false 0 s 0

def plainlyWalks (i : Nat) (cs : List Char) (j : Nat) : Bool :=
  cs.all isPlain && walk .postgres (.outside i) cs == some (.outside j)

def plainlySpans (i : Nat) (cs : List Char) (j : Nat) : Bool :=
  plainlyWalks i cs j && unpaired 0 (lexemes .postgres (.outside i) cs) == some 0

theorem closing?_plain {c : Char} (plain : isPlain c) (d : Dialect) : d.closing? c = none := by
  have ⟨quote, double, tick, _, bracket, closing, _⟩ := isPlain_iff.mp plain
  simp [Dialect.closing?, quote, double, tick, bracket, closing]

theorem next_plain {c : Char} (plain : isPlain c) (d : Dialect) (n : Nat) :
    Place.next d (.outside n) c = Place.next .postgres (.outside n) c := by
  simp [Place.next, closing?_plain plain]

theorem next_plain_outside {d : Dialect} {c : Char} (plain : isPlain c) (n : Nat) :
    ∃ m, (Place.next d (.outside n) c).getD (.outside n) = .outside m := by
  simp only [Place.next, closing?_plain plain]
  repeat' split
  all_goals exact ⟨_, rfl⟩

theorem walk_plain {cs : List Char} (plain : cs.all isPlain = true) (d : Dialect) (n : Nat) :
    walk d (.outside n) cs = walk .postgres (.outside n) cs ∧
      lexemes d (.outside n) cs = lexemes .postgres (.outside n) cs := by
  induction cs generalizing n with
  | nil => exact ⟨rfl, rfl⟩
  | cons c cs ih =>
    rw [List.all_cons, Bool.and_eq_true] at plain
    obtain ⟨m, outside⟩ := next_plain_outside (d := .postgres) plain.1 n
    have later := ih plain.2 m
    refine ⟨?_, ?_⟩
    · rw [walk_cons, walk_cons, next_plain plain.1]
      cases step : Place.next .postgres (.outside n) c with
      | none => rfl
      | some next =>
        obtain rfl : next = .outside m := by simpa [step] using outside
        exact later.1
    · rw [lexemes, lexemes, next_plain plain.1, outside, later.2]

namespace Dialect.Spans

variable {d : Dialect} {alone : Bool} {i j k : Nat} {a b : String}

theorem append (first : d.Spans alone i a j) (second : d.Spans alone j b k)
    (apart : j = 0 → endsApart a.toList ∨ startsApart b.toList) : d.Spans alone i (a ++ b) k := by
  have joined := lexemes_append first.walked (b := b.toList) fun same => apart (by simpa using same)
  refine ⟨?_, fun needed => ?_⟩
  · rw [String.toList_append, walk_append, first.walked]
    exact second.walked
  · rw [String.toList_append, joined, unpaired_append, first.paired needed]
    exact second.paired needed

theorem closed (spans : d.Spans alone i a j) : d.Spans false i a j := ⟨spans.walked, nofun⟩

theorem beside (first : d.Spans false i a j) (second : d.Spans false j b k) : d.Spans false i (a ++ b) k := by
  refine ⟨?_, nofun⟩
  rw [String.toList_append, walk_append, first.walked]
  exact second.walked

theorem scan {cs : List Char} (walked : walk d (.outside i) cs = some (.outside j))
    (paired : unpaired 0 (lexemes d (.outside i) cs) = some 0) : d.Spans alone i (String.ofList cs) j :=
  ⟨by rw [String.toList_ofList, walked], fun _ => by rw [String.toList_ofList, paired]⟩

theorem words {cs : List Char} (check : plainlyWalks i cs j = true) : d.Spans false i (String.ofList cs) j := by
  simp only [plainlyWalks, Bool.and_eq_true, beq_iff_eq] at check
  exact ⟨by rw [String.toList_ofList, (walk_plain check.1 d i).1, check.2], nofun⟩

theorem plain {cs : List Char} (check : plainlySpans i cs j = true) : d.Spans alone i (String.ofList cs) j := by
  simp only [plainlySpans, Bool.and_eq_true, beq_iff_eq] at check
  refine ⟨(words check.1).walked, fun _ => ?_⟩
  simp only [plainlyWalks, Bool.and_eq_true] at check
  rw [String.toList_ofList, (walk_plain check.1.1 d i).2, check.2]

theorem empty : d.Spans alone i "" i := ⟨rfl, fun _ => rfl⟩

theorem deeper (whole : d.Closed a) (n : Nat) : d.Spans alone (n + 1) a (n + 1) := by
  refine ⟨?_, fun _ => ?_⟩
  · simpa [Place.deeper] using walk_deeper whole.walked (n + 1)
  · have others := lexemes_deeper whole.walked n
    simp only [Place.deeper, Nat.zero_add] at others
    rw [others, unpaired_other]

theorem holding (first : d.Spans alone i a (j + 1)) (whole : d.Closed b) : d.Spans alone i (a ++ b) (j + 1) :=
  first.append (whole.deeper j) nofun

theorem before (first : d.Spans alone i a j) {cs : List Char} (second : d.Spans alone j (String.ofList cs) k)
    (starts : (j != 0 || startsApart cs) = true) : d.Spans alone i (a ++ String.ofList cs) k := by
  refine first.append second fun outside => .inr ?_
  rw [String.toList_ofList]
  simpa [outside] using starts

theorem beforePlain (first : d.Spans alone i a j) {cs : List Char}
    (check : (plainlySpans j cs k && (j != 0 || startsApart cs)) = true) :
    d.Spans alone i (a ++ String.ofList cs) k := by
  rw [Bool.and_eq_true] at check
  exact first.before (plain check.1) check.2

theorem argument (n : Nat) {cs ds : List Char} (inner : d.Closed a)
    (check : (plainlySpans i cs (n + 1) && plainlySpans (n + 1) ds j) = true) :
    d.Spans alone i (String.ofList cs ++ a ++ String.ofList ds) j := by
  rw [Bool.and_eq_true] at check
  exact ((plain check.1).holding inner).before (plain check.2) rfl

theorem arguments (m n : Nat) {cs between ds : List Char} (first : d.Closed a) (second : d.Closed b)
    (check : (plainlySpans i cs (m + 1) && plainlySpans (m + 1) between (n + 1) && plainlySpans (n + 1) ds j) = true) :
    d.Spans alone i (String.ofList cs ++ a ++ String.ofList between ++ b ++ String.ofList ds) j := by
  rw [Bool.and_eq_true] at check
  exact ((argument m first check.1).holding second).before (plain check.2) rfl

theorem after {cs : List Char} (first : d.Spans alone i (String.ofList cs) j) (second : d.Spans alone j b k)
    (ends : endsApart cs) : d.Spans alone i (String.ofList cs ++ b) k :=
  first.append second fun _ => .inl (by rwa [String.toList_ofList])

theorem afterPlain {cs : List Char} (second : d.Spans alone j b k)
    (check : (plainlySpans i cs j && endsApart cs) = true) : d.Spans alone i (String.ofList cs ++ b) k := by
  rw [Bool.and_eq_true] at check
  exact (plain check.1).after second check.2

theorem link (first : d.Spans alone i a j) {cs : List Char} (second : d.Spans alone 0 b k)
    (check : (plainlySpans j cs 0 && (j != 0 || startsApart cs) && endsApart cs) = true) :
    d.Spans alone i (a ++ String.ofList cs ++ b) k := by
  rw [Bool.and_eq_true] at check
  refine (first.beforePlain check.1).append second fun _ => .inl ?_
  rw [String.toList_append, String.toList_ofList]
  exact endsApart_append check.2 a.toList

theorem intercalate {cs : List Char} {parts : List String}
    (check : (plainlySpans 0 cs 0 && (0 != 0 || startsApart cs) && endsApart cs) = true)
    (all : ∀ part ∈ parts, d.Spans alone 0 part 0) :
    d.Spans alone 0 ((String.ofList cs).intercalate parts) 0 := by
  induction parts with
  | nil => exact .empty
  | cons part rest ih =>
    have first := all part (by simp)
    have later := ih fun other member => all other (List.mem_cons_of_mem _ member)
    cases rest with
    | nil => simpa using first
    | cons next rest =>
      rw [String.intercalate_cons_cons]
      exact first.link later check

theorem join {parts : List String} (all : ∀ part ∈ parts, d.Closed part) : d.Closed (String.join parts) := by
  induction parts with
  | nil => exact .empty
  | cons part rest ih =>
    rw [String.join_cons]
    exact (all part (by simp)).beside (ih fun other member => all other (List.mem_cons_of_mem _ member))

/-- A `BETWEEN` takes the `AND` behind it, however many others stand in the text between them. -/
theorem between {cs : List Char} {low high : String} (first : d.Spans alone 0 a 0)
    (words : walk d (.outside 0) cs = some (.outside 0)) (opens : unpaired 0 (lexemes d (.outside 0) cs) = some 1)
    (apart : (startsApart cs && endsApart cs) = true) (lower : d.Spans alone 0 low 0)
    (upper : d.Spans alone 0 high 0) :
    d.Spans alone 0 (a ++ String.ofList cs ++ low ++ " AND " ++ high) 0 := by
  rw [Bool.and_eq_true] at apart
  have conjunction : walk d (.outside 0) " AND ".toList = some (.outside 0) ∧
      unpaired 1 (lexemes d (.outside 0) " AND ".toList) = some 0 := by cases d <;> exact ⟨rfl, rfl⟩
  have left : walk d (.outside 0) (a.toList ++ cs ++ low.toList) = some (.outside 0) := by
    simp [walk_append, first.walked, words, lower.walked]
  refine ⟨?_, fun needed => ?_⟩
  · simp only [String.toList_append, String.toList_ofList]
    rw [walk_append, walk_append, left, Option.bind_some, conjunction.1, Option.bind_some]
    exact upper.walked
  · have paired := unpaired_add (lower.paired needed) 1
    simp only [String.toList_append, String.toList_ofList]
    rw [lexemes_link left conjunction.1 (fun _ => rfl) rfl, lexemes_link first.walked words (fun _ => apart.1) apart.2]
    simp only [unpaired_append, first.paired needed, opens, paired, conjunction.2, Option.bind_some]
    exact upper.paired needed

end Dialect.Spans

theorem not_wordChar_of_closing {d : Dialect} {c quote : Char} (opens : d.closing? c = some quote) :
    isWordChar c = false := by
  refine Bool.eq_false_iff.mpr fun word => ?_
  have stays := next_wordChar (d := d) word 0
  simp [Place.next, opens] at stays

structure Quoted (d : Dialect) (quote : Char) (cs : List Char) : Prop where
  walked : walk d (.inside quote 0) cs = some (.inside quote 0)
  hidden : lexemes d (.inside quote 0) cs = cs.map .other

namespace Quoted

variable {d : Dialect} {quote : Char}

theorem nil : Quoted d quote [] := ⟨rfl, rfl⟩

theorem twice {cs : List Char} (opens : d.closing? quote = some quote)
    (plain : ¬ (d.hasBackslashEscapes ∧ quote ≠ d.closeQuote ∧ quote = '\\')) (rest : Quoted d quote cs) :
    Quoted d quote (quote :: quote :: cs) := by
  have leaves : Place.next d (.inside quote 0) quote = some (.outside 0) := by simp [Place.next, plain]
  have enters : Place.next d (.outside 0) quote = some (.inside quote 0) := by simp [Place.next, opens]
  have other := not_wordChar_of_closing opens
  refine ⟨?_, ?_⟩
  · simp [leaves, enters, rest.walked]
  · simp [lexemes, leaves, enters, other, rest.hidden]

theorem cons {c : Char} {cs : List Char} (other : c ≠ quote)
    (plain : ¬ (d.hasBackslashEscapes ∧ quote ≠ d.closeQuote ∧ c = '\\')) (rest : Quoted d quote cs) :
    Quoted d quote (c :: cs) := by
  have stays : Place.next d (.inside quote 0) c = some (.inside quote 0) := by simp [Place.next, plain, other]
  exact ⟨by simp [stays, rest.walked], by simp [lexemes, stays, rest.hidden]⟩

theorem escape {c : Char} {cs : List Char} (escapes : d.hasBackslashEscapes) (other : quote ≠ d.closeQuote)
    (rest : Quoted d quote cs) : Quoted d quote ('\\' :: c :: cs) := by
  have takes : Place.next d (.inside quote 0) '\\' = some (.escaped quote 0) := by
    simp [Place.next, escapes, other]
  have returns : Place.next d (.escaped quote 0) c = some (.inside quote 0) := rfl
  exact ⟨by simp [takes, returns, rest.walked], by simp [lexemes, takes, returns, rest.hidden]⟩

theorem spans {cs : List Char} (inside : Quoted d quote cs) {alone : Bool} {first : Char}
    (opens : d.closing? first = some quote)
    (plain : ¬ (d.hasBackslashEscapes ∧ quote ≠ d.closeQuote ∧ quote = '\\')) :
    d.Spans alone 0 (String.ofList (first :: cs ++ [quote])) 0 := by
  have enters : Place.next d (.outside 0) first = some (.inside quote 0) := by simp [Place.next, opens]
  have leaves : Place.next d (.inside quote 0) quote = some (.outside 0) := by simp [Place.next, plain]
  have other := not_wordChar_of_closing opens
  apply Dialect.Spans.scan
  · simp [enters, walk_append, inside.walked, leaves]
  · have cut := lexemes_append inside.walked (b := [quote]) (by simp)
    have hidden : lexemes d (.outside 0) (first :: cs ++ [quote]) = (first :: cs ++ [quote]).map .other := by
      simp [lexemes, enters, other, cut, inside.hidden]
    rw [hidden, unpaired_other]

end Quoted

theorem closing?_closeQuote (d : Dialect) : d.closing? d.closeQuote = some d.closeQuote := by cases d <;> rfl

theorem closing?_openQuote (d : Dialect) : d.closing? d.openQuote = some d.closeQuote := by cases d <;> rfl

theorem closing?_apostrophe (d : Dialect) : d.closing? '\x27' = some '\x27' := by cases d <;> rfl

theorem quoted_double (d : Dialect) (cs : List Char) : Quoted d d.closeQuote (Text.double d.closeQuote cs) := by
  induction cs with
  | nil => exact .nil
  | cons c cs ih =>
    by_cases quote : c = d.closeQuote
    · simpa [Text.double, quote] using ih.twice (closing?_closeQuote d) (by simp)
    · simpa [Text.double, quote] using ih.cons quote (by simp)

theorem Spells.quoted {d : Dialect} {written said : List Char} (spells : Spells d written said) :
    Quoted d '\x27' written := by
  induction spells with
  | nil => exact .nil
  | apostrophe _ ih => exact ih.twice (closing?_apostrophe d) (by simp)
  | escape escapes _ ih =>
    refine ih.escape escapes ?_
    revert escapes
    cases d <;> decide
  | self quote plain _ ih => exact ih.cons quote fun both => plain ⟨both.1, both.2.2⟩

theorem Spells.spans {d : Dialect} {written said : List Char} (spells : Spells d written said) {alone : Bool} :
    d.Spans alone 0 (String.ofList ('\x27' :: written ++ ['\x27'])) 0 :=
  spells.quoted.spans (closing?_apostrophe d) (by simp)

def Place.Quoted : Place → Prop
  | .outside _ => True
  | .inside quote _ | .escaped quote _ => Text.isBlank quote = false

theorem blank_of_closing {d : Dialect} {c quote : Char} (opens : d.closing? c = some quote) :
    Text.isBlank quote = false := by
  have quotes : quote = '\x27' ∨ quote = '\x22' ∨ quote = '\x60' ∨ quote = ']' := by
    unfold Dialect.closing? at opens
    grind
  rcases quotes with rfl | rfl | rfl | rfl <;> decide

theorem Place.Quoted.next {d : Dialect} {p q : Place} {c : Char} (quoted : p.Quoted) (step : p.next d c = some q) :
    q.Quoted := by
  cases p <;> simp only [Place.next] at step
  all_goals repeat' split at step
  all_goals cases step
  all_goals first
    | exact True.intro
    | exact quoted
    | exact blank_of_closing ‹_›

theorem Place.Quoted.walk {d : Dialect} {p q : Place} {cs : List Char} (quoted : p.Quoted)
    (walked : walk d p cs = some q) : q.Quoted := by
  induction cs generalizing p with
  | nil => exact Option.some.inj walked ▸ quoted
  | cons c cs ih =>
    obtain ⟨next, step, rest⟩ := walk_cons_eq_some walked
    exact ih (quoted.next step) rest

theorem walk_blanks {d : Dialect} {p : Place} {n : Nat} {blanks : List Char} (quoted : p.Quoted)
    (all : ∀ c ∈ blanks, Text.isBlank c) (walked : walk d p blanks = some (.outside n)) : p = .outside n := by
  induction blanks generalizing p with
  | nil => exact Option.some.inj walked
  | cons c cs ih =>
    obtain ⟨next, step, rest⟩ := walk_cons_eq_some walked
    have blank := all c (by simp)
    have before := ih (quoted.next step) (fun other member => all other (List.mem_cons_of_mem _ member)) rest
    subst before
    cases p with
    | outside m =>
      have parentheses : c ≠ '(' ∧ c ≠ ')' := by constructor <;> (rintro rfl; revert blank; decide)
      simpa [Place.next, closing?_plain (isPlain_of_isBlank blank), parentheses] using step
    | inside quote m =>
      have other : c ≠ quote := by
        rintro rfl
        simp [Place.Quoted, blank] at quoted
      simp only [Place.next, other, if_false] at step
      split at step <;> cases step
    | escaped quote m => cases step

theorem Dialect.Spans.trimEnd {d : Dialect} {s : String} (closed : d.Closed s) :
    d.Closed (String.ofList (Text.trimEnd s.toList)) := by
  obtain ⟨blanks, cut, all⟩ := Text.trimEnd_append_blanks s.toList
  have walked := closed.walked
  rw [cut, walk_append] at walked
  obtain ⟨place, kept, rest⟩ := Option.bind_eq_some_iff.mp walked
  have start : (Place.outside 0).Quoted := True.intro
  refine ⟨?_, nofun⟩
  rw [String.toList_ofList, kept, walk_blanks (start.walk kept) all rest]

end SqlCompiler
