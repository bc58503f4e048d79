import Mathlib.Data.List.DropRight
import SqlCompiler.Proofs.Quoting.TextLiterals
import SqlCompiler.Proofs.Retention.Parts
import SqlCompiler.Write.Change

namespace SqlCompiler

def isArrayBlank (c : Char) : Bool := c = ' ' || ('\t' ≤ c && c ≤ '\r')

def isArrayMark (c : Char) : Bool := c = ',' || c = '\x7b' || c = '\x7d' || c = '\x22' || c = '\\'

def quotedItem : List Char → Option (List Char × List Char)
  | [] => none
  | '\x22' :: cs => some ([], cs)
  | ['\\'] => none
  | '\\' :: c :: cs => (quotedItem cs).map (saying [c])
  | c :: cs => (quotedItem cs).map (saying [c])

/-- The characters of an item without quotes up to the comma or the brace behind it, each with whether a backslash stood
before it. -/
def bareItem : List Char → Option (List (Char × Bool) × List Char)
  | [] => none
  | ['\\'] => none
  | '\\' :: c :: cs => (bareItem cs).map fun (item, rest) => ((c, true) :: item, rest)
  | c :: cs =>
    if c = ',' ∨ c = '\x7d' then some ([], c :: cs)
    else if c = '\x7b' ∨ c = '\x22' then none
    else (bareItem cs).map fun (item, rest) => ((c, false) :: item, rest)

def isFreeBlank (x : Char × Bool) : Bool := !x.2 && isArrayBlank x.1

def bareValue (item : List (Char × Bool)) : Option (Option (List Char)) :=
  let kept := item.rdropWhile isFreeBlank
  if kept = [] then none
  else if kept.map (Prod.map Char.toUpper id) = "NULL".toList.map fun c => (c, false) then some none
  else some (some (kept.map Prod.fst))

def readItem (cs : List Char) : Option (Option (List Char) × List Char) :=
  match cs.dropWhile isArrayBlank with
  | '\x22' :: cs => (quotedItem cs).map fun (said, rest) => (some said, rest.dropWhile isArrayBlank)
  | cs => (bareItem cs).bind fun (item, rest) => (bareValue item).map fun value => (value, rest)

theorem length_quotedItem {cs said rest : List Char} (read : quotedItem cs = some (said, rest)) :
    said.length + rest.length < cs.length := by
  fun_induction quotedItem cs generalizing said rest with
  | case1 => cases read
  | case2 cs =>
    cases read
    simp
  | case3 => cases read
  | case4 c cs ih =>
    obtain ⟨_, later, rfl⟩ := map_saying_eq_some read
    have shorter := ih later
    simp only [List.length_append, List.length_cons, List.length_nil]
    omega
  | case5 c cs _ _ _ ih =>
    obtain ⟨_, later, rfl⟩ := map_saying_eq_some read
    have shorter := ih later
    simp only [List.length_append, List.length_cons, List.length_nil]
    omega

theorem bareItem_tight {cs rest : List Char} {item : List (Char × Bool)} (read : bareItem cs = some (item, rest)) :
    item.length + rest.length ≤ cs.length ∧
      (cs.length = item.length + rest.length →
        cs = item.map Prod.fst ++ rest ∧ ∀ x ∈ item, x.2 = false ∧ isArrayMark x.1 = false) := by
  fun_induction bareItem cs generalizing item rest with
  | case1 => cases read
  | case2 => cases read
  | case3 c cs ih =>
    obtain ⟨⟨item, rest⟩, later, same⟩ := Option.map_eq_some_iff.mp read
    cases same
    have bound := (ih later).1
    simp only [List.length_cons]
    exact ⟨by omega, fun equal => by omega⟩
  | case4 c cs _ closing =>
    cases read
    simp
  | case5 => cases read
  | case6 c cs single taken noEnd noMark ih =>
    obtain ⟨⟨item, rest⟩, later, same⟩ := Option.map_eq_some_iff.mp read
    cases same
    have plain : isArrayMark c = false := by
      have other : c ≠ '\\' := by
        rintro rfl
        cases cs with
        | nil => exact single rfl rfl
        | cons next cs => exact taken next cs rfl rfl
      simp_all [isArrayMark]
    obtain ⟨bound, tight⟩ := ih later
    simp only [List.length_cons]
    refine ⟨by omega, fun equal => ?_⟩
    obtain ⟨whole, plains⟩ := tight (by omega)
    exact ⟨by rw [whole]; rfl, List.forall_mem_cons.mpr ⟨⟨rfl, plain⟩, plains⟩⟩

/-- A text that an array holds as it stands. -/
structure IsBare (item : List Char) : Prop where
  something : item ≠ []
  marks : ∀ c ∈ item, isArrayMark c = false
  starts : item.head?.any isArrayBlank = false
  ends : item.getLast?.any isArrayBlank = false
  word : item.map Char.toUpper ≠ "NULL".toList

instance (item : List Char) : Decidable (IsBare item) :=
  decidable_of_iff (item ≠ [] ∧ item.all (fun c => !isArrayMark c) ∧ item.head?.any isArrayBlank = false ∧
    item.getLast?.any isArrayBlank = false ∧ item.map Char.toUpper ≠ "NULL".toList)
    ⟨fun ⟨something, marks, starts, ends, word⟩ => ⟨something, by simpa using marks, starts, ends, word⟩,
      fun ⟨something, marks, starts, ends, word⟩ => ⟨something, by simpa using marks, starts, ends, word⟩⟩

def free (cs : List Char) : List (Char × Bool) := cs.map fun c => (c, false)

theorem map_fst_free (cs : List Char) : (free cs).map Prod.fst = cs := by simp [free, Function.comp_def]

theorem eq_free_of_forall {item : List (Char × Bool)} (plain : ∀ x ∈ item, x.2 = false) :
    item = free (item.map Prod.fst) := by
  rw [free, List.map_map]
  refine (List.map_id item).symm.trans (List.map_congr_left fun x member => ?_)
  exact Prod.ext rfl (plain x member)

theorem rdropWhile_free (cs : List Char) :
    (free cs).rdropWhile isFreeBlank = free cs ↔ cs.getLast?.any isArrayBlank = false := by
  rw [List.rdropWhile_eq_self_iff]
  cases cs using List.reverseRecOn with
  | nil => simp [free]
  | append_singleton cs c => simp [free, isFreeBlank]

theorem bareValue_free {cs : List Char} (something : cs ≠ []) (ends : cs.getLast?.any isArrayBlank = false) :
    bareValue (free cs) = if cs.map Char.toUpper = "NULL".toList then some none else some (some cs) := by
  have nonempty : free cs ≠ [] := by simpa [free] using something
  have upper : (free cs).map (Prod.map Char.toUpper id) = free (cs.map Char.toUpper) := by simp [free]
  have same : free (cs.map Char.toUpper) = "NULL".toList.map (fun c => (c, false)) ↔
      cs.map Char.toUpper = "NULL".toList :=
    ⟨fun equal => by rw [← map_fst_free (cs.map Char.toUpper), equal]; rfl, fun equal => by rw [equal]; rfl⟩
  simp only [bareValue, (rdropWhile_free cs).mpr ends, nonempty, upper, same, map_fst_free, if_false]

theorem bareValue_tight {item : List (Char × Bool)} {said : List Char} (read : bareValue item = some (some said)) :
    said.length ≤ item.length ∧ (item.length = said.length → item.rdropWhile isFreeBlank = item) := by
  have shorter := (List.rdropWhile_prefix isFreeBlank item).length_le
  simp only [bareValue] at read
  split at read
  · cases read
  · split at read
    · cases read
    · cases read
      rw [List.length_map]
      exact ⟨shorter, fun equal => (List.rdropWhile_prefix isFreeBlank item).eq_of_length equal.symm⟩

theorem length_readItem {cs rest : List Char} {value : Option (List Char)} (read : readItem cs = some (value, rest)) :
    rest.length ≤ cs.length := by
  have shorter := (List.dropWhile_suffix (l := cs) isArrayBlank).length_le
  unfold readItem at read
  split at read
  · rename_i inner opened
    obtain ⟨⟨said, after⟩, quoted, same⟩ := Option.map_eq_some_iff.mp read
    cases same
    have bound := length_quotedItem quoted
    have later := (List.dropWhile_suffix isArrayBlank (l := after)).length_le
    rw [opened, List.length_cons] at shorter
    omega
  · obtain ⟨⟨item, after⟩, bare, valued⟩ := Option.bind_eq_some_iff.mp read
    obtain ⟨_, -, same⟩ := Option.map_eq_some_iff.mp valued
    cases same
    have bound := (bareItem_tight bare).1
    omega

theorem readItem_tight {cs said rest : List Char} (read : readItem cs = some (some said, rest)) :
    said.length + rest.length ≤ cs.length ∧
      (cs.length = said.length + rest.length → cs = said ++ rest ∧ IsBare said) := by
  have shorter := (List.dropWhile_suffix (l := cs) isArrayBlank).length_le
  unfold readItem at read
  split at read
  · rename_i inner opened
    obtain ⟨⟨said', after⟩, quoted, same⟩ := Option.map_eq_some_iff.mp read
    cases same
    have bound := length_quotedItem quoted
    have later := (List.dropWhile_suffix isArrayBlank (l := after)).length_le
    rw [opened, List.length_cons] at shorter
    exact ⟨by omega, fun equal => by omega⟩
  · obtain ⟨⟨item, after⟩, bare, valued⟩ := Option.bind_eq_some_iff.mp read
    obtain ⟨value, value_eq, same⟩ := Option.map_eq_some_iff.mp valued
    cases same
    obtain ⟨itemBound, itemTight⟩ := bareItem_tight bare
    obtain ⟨saidBound, saidTight⟩ := bareValue_tight value_eq
    refine ⟨by omega, fun equal => ?_⟩
    -- Nothing is left over, so no blank was dropped and no character was taken by a backslash.
    have whole : cs.dropWhile isArrayBlank = cs :=
      (List.dropWhile_suffix isArrayBlank).eq_of_length (by omega)
    rw [whole] at itemTight itemBound
    obtain ⟨cs_eq, plain⟩ := itemTight (by omega)
    have item_eq := eq_free_of_forall fun x member => (plain x member).1
    generalize item.map Prod.fst = written at item_eq cs_eq
    subst item_eq
    have ends := (rdropWhile_free written).mp (saidTight (by omega))
    have starts : cs.head?.any isArrayBlank = false := by
      cases cs with
      | nil => rfl
      | cons c cs => simpa using whole
    have something : written ≠ [] := by
      rintro rfl
      simp [bareValue, free] at value_eq
    rw [bareValue_free something ends] at value_eq
    split at value_eq
    · cases value_eq
    · rename_i word
      cases value_eq
      refine ⟨cs_eq, something, fun c member => ?_, ?_, ends, word⟩
      · exact (plain (c, false) (List.mem_map_of_mem member)).2
      · rwa [cs_eq, List.head?_append_of_ne_nil _ something] at starts

def readItems (cs : List Char) : Option (List (Option (List Char)) × List Char) :=
  match _found : readItem cs with
  | some (value, ',' :: rest) => (readItems rest).map fun (values, rest) => (value :: values, rest)
  | some (value, '\x7d' :: rest) => some ([value], rest)
  | _ => none
termination_by cs.length
decreasing_by exact length_readItem _found

/-- The items of a whole array. An array of arrays has no items of its own. -/
def readArray (cs : List Char) : Option (List (Option (List Char))) :=
  match cs.dropWhile isArrayBlank with
  | '\x7b' :: cs =>
    match cs.dropWhile isArrayBlank with
    | '\x7d' :: rest => if rest.all isArrayBlank then some [] else none
    | inner =>
      match readItems inner with
      | some (values, rest) => if rest.all isArrayBlank then some values else none
      | none => none
  | _ => none

theorem bareItem_free {cs rest : List Char} {c : Char} (marks : ∀ c ∈ cs, isArrayMark c = false)
    (ends : c = ',' ∨ c = '\x7d') : bareItem (cs ++ c :: rest) = some (free cs, c :: rest) := by
  induction cs with
  | nil => rcases ends with rfl | rfl <;> cases rest <;> rfl
  | cons first cs ih =>
    obtain ⟨plain, later⟩ := List.forall_mem_cons.mp marks
    simp only [isArrayMark, Bool.or_eq_false_iff, decide_eq_false_iff_not] at plain
    obtain ⟨⟨⟨⟨comma, opening⟩, closing⟩, quote⟩, backslash⟩ := plain
    rw [List.cons_append, bareItem.eq_4 _ _ (fun same _ => backslash same) (fun _ _ same _ => backslash same)]
    simp [comma, opening, closing, quote, ih later, free]

theorem readItem_bare {item rest : List Char} {c : Char} (bare : IsBare item) (ends : c = ',' ∨ c = '\x7d') :
    readItem (item ++ c :: rest) = some (some item, c :: rest) := by
  obtain ⟨something, marks, starts, last, word⟩ := bare
  cases item with
  | nil => exact absurd rfl something
  | cons first item =>
    have whole : (first :: item ++ c :: rest).dropWhile isArrayBlank = first :: item ++ c :: rest := by
      have : isArrayBlank first = false := starts
      simp [this]
    have noQuote : first ≠ '\x22' := by
      rintro rfl
      cases marks '\x22' (.head _)
    rw [readItem, whole]
    split
    · simp_all
    · rw [bareItem_free marks ends, Option.bind_some]
      simp only [bareValue_free something last, if_neg word, Option.map_some]

theorem readItems_bare {items : List (List Char)} (something : items ≠ []) (bare : ∀ item ∈ items, IsBare item)
    (rest : List Char) :
    readItems ([','].intercalate items ++ '\x7d' :: rest) = some (items.map some, rest) := by
  induction items with
  | nil => exact absurd rfl something
  | cons item items ih =>
    obtain ⟨first, later⟩ := List.forall_mem_cons.mp bare
    cases items with
    | nil =>
      rw [List.intercalate_singleton, readItems, readItem_bare first (.inr rfl)]
      rfl
    | cons next items =>
      rw [List.intercalate_cons_cons, List.append_assoc, List.append_assoc, List.singleton_append, readItems,
        readItem_bare first (.inl rfl)]
      simp only [ih (List.cons_ne_nil _ _) later]
      rfl

theorem readItems_tight {cs rest : List Char} {items : List (List Char)}
    (read : readItems cs = some (items.map some, rest)) :
    ([','].intercalate items).length + 1 + rest.length ≤ cs.length ∧
      (cs.length = ([','].intercalate items).length + 1 + rest.length → ∀ item ∈ items, IsBare item) := by
  induction items generalizing cs with
  | nil =>
    rw [readItems] at read
    split at read
    · obtain ⟨⟨_, _⟩, -, same⟩ := Option.map_eq_some_iff.mp read
      cases same
    · cases read
    · cases read
  | cons item items ih =>
    rw [readItems] at read
    split at read
    · rename_i value after found
      obtain ⟨⟨values, rest⟩, later, same⟩ := Option.map_eq_some_iff.mp read
      simp only [List.map_cons, Prod.mk.injEq, List.cons.injEq] at same
      obtain ⟨⟨rfl, rfl⟩, rfl⟩ := same
      obtain ⟨itemBound, itemTight⟩ := readItem_tight found
      obtain ⟨bound, tight⟩ := ih later
      cases items with
      | nil =>
        simp only [List.intercalate_singleton, List.intercalate_nil, List.length_nil, List.length_cons] at *
        exact ⟨by omega, fun equal => by omega⟩
      | cons next items =>
        simp only [List.intercalate_cons_cons, List.length_append, List.length_cons, List.length_nil] at *
        refine ⟨by omega, fun equal => List.forall_mem_cons.mpr ⟨(itemTight (by omega)).2, tight (by omega)⟩⟩
    · rename_i value after found
      cases items with
      | nil =>
        cases read
        obtain ⟨itemBound, itemTight⟩ := readItem_tight found
        rw [List.intercalate_singleton]
        rw [List.length_cons] at itemBound itemTight
        exact ⟨by omega, fun equal => by simpa using (itemTight (by omega)).2⟩
      | cons next items => cases read
    · cases read

theorem intercalate_starts (item : List Char) (items : List (List Char)) :
    ∃ after, [','].intercalate (item :: items) = item ++ after := by
  cases items with
  | nil => exact ⟨[], by simp⟩
  | cons next items => exact ⟨[','] ++ [','].intercalate (next :: items), by rw [List.intercalate_cons_cons]; simp⟩

/-- Items between braces are read back if they are bare. If they are not, the array has other items, or none. -/
theorem readArray_intercalate_iff (items : List (List Char)) :
    readArray ('\x7b' :: ([','].intercalate items ++ ['\x7d'])) = some (items.map some) ↔
      ∀ item ∈ items, IsBare item := by
  have opens (cs : List Char) : ('\x7b' :: cs).dropWhile isArrayBlank = '\x7b' :: cs := rfl
  constructor
  · intro read
    simp only [readArray, opens] at read
    have shorter := (List.dropWhile_suffix (l := [','].intercalate items ++ ['\x7d']) isArrayBlank).length_le
    split at read
    · split at read
      · cases items with
        | nil => simp
        | cons item items => cases read
      · cases read
    · split at read
      · rename_i values rest found
        split at read
        · obtain rfl := Option.some.inj read
          obtain ⟨bound, tight⟩ := readItems_tight found
          rw [List.length_append, List.length_singleton] at shorter
          exact tight (by omega)
        · cases read
      · cases read
  · intro bare
    cases items with
    | nil => rfl
    | cons item items =>
      obtain ⟨something, marks, starts, -, -⟩ := bare item (.head _)
      obtain ⟨c, cs, rfl⟩ := List.exists_cons_of_ne_nil something
      obtain ⟨after, begins⟩ := intercalate_starts (c :: cs) items
      have blank : isArrayBlank c = false := starts
      have noBrace : c ≠ '\x7d' := by
        rintro rfl
        cases marks '\x7d' (.head _)
      have whole : ([','].intercalate ((c :: cs) :: items) ++ ['\x7d']).dropWhile isArrayBlank =
          [','].intercalate ((c :: cs) :: items) ++ ['\x7d'] := by simp [begins, blank]
      simp only [readArray, opens, whole]
      split
      · rename_i closed
        rw [begins] at closed
        exact absurd (List.cons.inj closed).1 noBrace
      · rw [readItems_bare (List.cons_ne_nil _ _) bare]
        rfl

namespace Dialect

def readPath (d : Dialect) (literal : String) : Option (List (Option String)) :=
  match d.readLiteral literal with
  | some (said, "") => (readArray said.toList).map (List.map (Option.map String.ofList))
  | _ => none

theorem readPath_quoteText {d : Dialect} (escapes : d.hasBackslashEscapes = false) (s : String) :
    d.readPath (quoteText s) = (readArray s.toList).map (List.map (Option.map String.ofList)) := by
  have read := readLiteral_append (Spells.double escapes s.toList) ""
  have said : d.readLiteral (quoteText s) = some (s, "") := by
    simpa [quoteText, readInside] using read
  simp [readPath, said]

theorem readPath_steps_iff {d : Dialect} (escapes : d.hasBackslashEscapes = false) (path : List String) :
    d.readPath (quoteText ("\x7b" ++ ",".intercalate path ++ "\x7d")) = some (path.map some) ↔
      ∀ step ∈ path, IsBare step.toList := by
  have chars : ("\x7b" ++ ",".intercalate path ++ "\x7d").toList =
      '\x7b' :: ([','].intercalate (path.map String.toList) ++ ['\x7d']) := by
    simp [String.toList_intercalate]
  have texts (values : List (Option (List Char))) :
      values.map (Option.map String.ofList) = path.map some ↔ values = (path.map String.toList).map some := by
    constructor
    · intro same
      have back := congrArg (List.map (Option.map String.toList)) same
      simpa [Function.comp_def] using back
    · rintro rfl
      simp [Function.comp_def]
  rw [readPath_quoteText escapes, chars, Option.map_eq_some_iff]
  simp only [texts, exists_eq_right, readArray_intercalate_iff, List.forall_mem_map]

end Dialect

namespace Target

variable {t : Target}

theorem documentAssignment_postgres (postgres : t.dialect = .postgres) (column : String) (value : Operand) :
    (t.documentAssignment column value).text =
      t.dotted (Text.fieldAndPath column).1 ++ " = JSONB_SET(" ++ t.dotted (Text.fieldAndPath column).1 ++
        "::jsonb, " ++ quoteText ("\x7b" ++ ",".intercalate (Text.fieldAndPath column).2 ++ "\x7d") ++ ", " ++
        (t.storedSql value).text ++ ")" := by
  simp [documentAssignment, postgres, ← String.toList_inj]

/-- An assignment to a place in a document names the place by a literal, which says the steps of the column just if each
of them is bare. Of bare steps, other ones make another assignment. -/
theorem documentAssignment_reads_back_iff (postgres : t.dialect = .postgres) (column : String) (value : Operand) :
    (∃ literal,
      (t.documentAssignment column value).text =
        t.dotted (Text.fieldAndPath column).1 ++ " = JSONB_SET(" ++ t.dotted (Text.fieldAndPath column).1 ++
          "::jsonb, " ++ literal ++ ", " ++ (t.storedSql value).text ++ ")" ∧
      (t.dialect.readPath literal = some ((Text.fieldAndPath column).2.map some) ↔
        ∀ step ∈ (Text.fieldAndPath column).2, IsBare step.toList)) ∧
    ∀ other, (Text.fieldAndPath other).1 = (Text.fieldAndPath column).1 →
      (∀ step ∈ (Text.fieldAndPath column).2, IsBare step.toList) →
      (∀ step ∈ (Text.fieldAndPath other).2, IsBare step.toList) →
      (t.documentAssignment other value).text = (t.documentAssignment column value).text →
      (Text.fieldAndPath other).2 = (Text.fieldAndPath column).2 := by
  have escapes : t.dialect.hasBackslashEscapes = false := by rw [postgres]; rfl
  have reads (column : String) := Dialect.readPath_steps_iff escapes (Text.fieldAndPath column).2
  refine ⟨⟨_, documentAssignment_postgres postgres column value, reads column⟩,
    fun other field bare bareOther same => ?_⟩
  rw [documentAssignment_postgres postgres, documentAssignment_postgres postgres, field] at same
  simp only [String.append_left_inj, String.append_right_inj] at same
  have paths := ((reads other).mpr bareOther).symm.trans ((congrArg _ same).trans ((reads column).mpr bare))
  exact List.map_injective_iff.mpr (fun _ _ => Option.some.inj) (Option.some.inj paths)

theorem lampColours_read_back :
    ∃ literal,
      (Target.documentAssignment { dialect := .postgres } "meta->lamp colours->top's" (.value (.int 3))).text =
        Target.dotted { dialect := .postgres } "meta" ++ " = JSONB_SET(" ++
          Target.dotted { dialect := .postgres } "meta" ++ "::jsonb, " ++ literal ++ ", " ++
          (Target.storedSql { dialect := .postgres } (.value (.int 3))).text ++ ")" ∧
      Dialect.readPath .postgres literal = some [some "lamp colours", some "top's"] := by
  have found : Text.fieldAndPath "meta->lamp colours->top's" = ("meta", ["lamp colours", "top's"]) := by decide +kernel
  obtain ⟨⟨literal, text, reads⟩, -⟩ := documentAssignment_reads_back_iff (t := { dialect := .postgres }) rfl
    "meta->lamp colours->top's" (.value (.int 3))
  rw [found] at text reads
  have bare : IsBare "lamp colours".toList ∧ IsBare "top's".toList := by decide +kernel
  exact ⟨literal, text, reads.mpr (by simpa using bare)⟩

/-- A step with a comma is read as two, and shares its assignment with those. -/
theorem commaStep_read_as_two :
    Text.fieldAndPath "meta->a,b" = ("meta", ["a,b"]) ∧
    (Target.documentAssignment { dialect := .postgres } "meta->a,b" (.value (.int 1))).text =
      "\x22meta\x22 = JSONB_SET(\x22meta\x22::jsonb, \x27\x7ba,b\x7d\x27, ?)" ∧
    Dialect.readPath .postgres "\x27\x7ba,b\x7d\x27" = some [some "a", some "b"] ∧
    (Target.documentAssignment { dialect := .postgres } "meta->a,b" (.value (.int 1))).text =
      (Target.documentAssignment { dialect := .postgres } "meta->a->b" (.value (.int 1))).text := by
  refine ⟨by decide +kernel, by decide +kernel, by decide +kernel, by decide +kernel⟩

end Target

end SqlCompiler
