import SqlCompiler.Identifier

namespace SqlCompiler

namespace Text

theorem double_append_inj {q : Char} {cs ds rest rest' : List Char}
    (same : double q cs ++ q :: rest = double q ds ++ q :: rest') (alone : rest.head? ≠ some q)
    (alone' : rest'.head? ≠ some q) : cs = ds ∧ rest = rest' := by
  induction cs generalizing ds with
  | nil =>
    cases ds with
    | nil => exact ⟨rfl, by simpa [double] using same⟩
    | cons d ds =>
      -- the other text could only go on with a quote that is written twice, but here it stands alone
      by_cases quote : d = q
      · subst quote
        have again : rest = d :: (double d ds ++ d :: rest') := by simpa [double] using same
        exact absurd (by simp [again]) alone
      · have first : q = d := by simpa [double, quote] using congrArg List.head? same
        exact absurd first.symm quote
  | cons c cs ih =>
    cases ds with
    | nil =>
      by_cases quote : c = q
      · subst quote
        have again : c :: (double c cs ++ c :: rest) = rest' := by simpa [double] using same
        exact absurd (by simp [← again]) alone'
      · have first : c = q := by simpa [double, quote] using congrArg List.head? same
        exact absurd first quote
    | cons d ds =>
      have first : c = d := by
        by_cases quote : c = q <;> by_cases quote' : d = q <;> simp_all [double]
      subst first
      have later : double q cs ++ q :: rest = double q ds ++ q :: rest' := by
        by_cases quote : c = q <;> simpa [double, quote] using same
      obtain ⟨rfl, rest_eq⟩ := ih later
      exact ⟨rfl, rest_eq⟩

theorem not_mem_of_mem_split {sep : Char} {cs part : List Char} (member : part ∈ split sep cs) : sep ∉ part := by
  induction cs generalizing part with
  | nil => simp_all [split]
  | cons c cs ih =>
    simp only [split] at member
    split at member
    · rcases List.mem_cons.mp member with rfl | member
      · simp
      · exact ih member
    · rename_i other
      split at member
      · have single := List.mem_singleton.mp member
        simpa [single] using Ne.symm other
      · rename_i first parts found
        rcases List.mem_cons.mp member with rfl | member
        · have absent : sep ∉ first := ih (by simp [found])
          simpa using ⟨Ne.symm other, absent⟩
        · exact ih (by simp [found, member])

theorem splitLast_eq_none {sep : Char} {cs : List Char} (absent : sep ∉ cs) : splitLast sep cs = none := by
  induction cs with
  | nil => rfl
  | cons c cs ih =>
    simp only [List.mem_cons, not_or] at absent
    simp [splitLast, ih absent.2, Ne.symm absent.1]

theorem afterAs?_append {cs label : List Char} (found : afterAs? cs = some label) (rest : List Char) :
    afterAs? (cs ++ rest) = some (label ++ rest) := by
  unfold afterAs? at found
  split at found
  · split at found
    · rename_i word
      cases found
      simp [afterAs?, word]
    · cases found
  · cases found

theorem cutAlias_eq_none_of_append {cs rest : List Char} (plain : cutAlias (cs ++ rest) = none) :
    cutAlias cs = none := by
  induction cs with
  | nil => rfl
  | cons c cs ih =>
    simp only [List.cons_append, cutAlias] at plain ⊢
    cases found : afterAs? (c :: cs) with
    | some label =>
      have whole := afterAs?_append found rest
      rw [List.cons_append] at whole
      simp [whole] at plain
    | none =>
      split at plain
      · cases plain
      · simp only [Option.map_eq_none_iff] at plain ⊢
        exact ih plain

theorem parts_inj {sep : Char} {s s' : String} (same : parts sep s = parts sep s') : s = s' := by
  have lists : split sep s.toList = split sep s'.toList :=
    (List.map_inj_right fun _ _ => String.ofList_inj.mp).mp same
  have joined := congrArg ([sep].intercalate ·) lists
  simp only [intercalate_split] at joined
  exact String.toList_inj.mp joined

end Text

namespace Dialect

theorem openQuote_ne_star (d : Dialect) : d.openQuote ≠ '*' := by cases d <;> decide

theorem quoteName_append_inj {d : Dialect} {a b rest rest' : String}
    (same : d.quoteName a ++ rest = d.quoteName b ++ rest') (alone : rest.toList.head? ≠ some d.closeQuote)
    (alone' : rest'.toList.head? ≠ some d.closeQuote) : a = b ∧ rest = rest' := by
  have quoted {name : String} (plain : name ≠ "*") (rest : String) : (d.quoteName name ++ rest).toList =
      d.openQuote :: (Text.double d.closeQuote name.toList ++ d.closeQuote :: rest.toList) := by
    simp [quoteName, plain]
  have star (rest : String) : (d.quoteName "*" ++ rest).toList = '*' :: rest.toList := by
    simp [quoteName]
  have lists := congrArg String.toList same
  by_cases first : a = "*" <;> by_cases second : b = "*"
  · subst first second
    rw [star, star] at lists
    exact ⟨rfl, String.toList_inj.mp (List.cons.inj lists).2⟩
  · subst first
    rw [star, quoted second] at lists
    exact absurd (List.cons.inj lists).1.symm d.openQuote_ne_star
  · subst second
    rw [star, quoted first] at lists
    exact absurd (List.cons.inj lists).1 d.openQuote_ne_star
  · rw [quoted first, quoted second] at lists
    obtain ⟨name, behind⟩ := Text.double_append_inj (List.cons.inj lists).2 alone alone'
    exact ⟨String.toList_inj.mp name, String.toList_inj.mp behind⟩

theorem quoteName_ne_empty (d : Dialect) (name : String) : d.quoteName name ≠ "" := by
  intro empty
  have chars := congrArg String.toList empty
  unfold quoteName at chars
  split at chars
  · rename_i star
    simp [star] at chars
  · simp at chars

def afterDot (d : Dialect) (names : List String) : String :=
  if names.isEmpty then "" else "." ++ ".".intercalate (names.map d.quoteName)

theorem intercalate_quoteName_cons (d : Dialect) (name : String) (names : List String) :
    ".".intercalate ((name :: names).map d.quoteName) = d.quoteName name ++ d.afterDot names := by
  cases names with
  | nil => simp [afterDot]
  | cons next names => simp [afterDot, String.append_assoc]

theorem afterDot_head (d : Dialect) (names : List String) :
    (d.afterDot names).toList.head? ≠ some d.closeQuote := by
  unfold afterDot
  split
  · simp
  · cases d <;> simp [closeQuote]

theorem intercalate_quoteName_inj {d : Dialect} {names names' : List String}
    (same : ".".intercalate (names.map d.quoteName) = ".".intercalate (names'.map d.quoteName)) : names = names' := by
  have some (name : String) (names : List String) : "" ≠ ".".intercalate ((name :: names).map d.quoteName) := by
    rw [intercalate_quoteName_cons]
    intro empty
    exact d.quoteName_ne_empty name (String.append_eq_empty_iff.mp empty.symm).1
  induction names generalizing names' with
  | nil =>
    cases names' with
    | nil => rfl
    | cons name' names' => exact absurd same (some name' names')
  | cons name names ih =>
    cases names' with
    | nil => exact absurd same.symm (some name names)
    | cons name' names' =>
      rw [intercalate_quoteName_cons, intercalate_quoteName_cons] at same
      obtain ⟨rfl, behind⟩ := quoteName_append_inj same (d.afterDot_head names) (d.afterDot_head names')
      unfold afterDot at behind
      split at behind <;> split at behind
      · simp_all
      · simp at behind
      · simp at behind
      · rw [ih (String.append_right_inj _ |>.mp behind)]

end Dialect

namespace Target

def segments (t : Target) (name : String) : List String :=
  match Text.parts '.' name with
  | [table, column] => [t.tablePrefix ++ table, column]
  | parts => parts

theorem cut_of_parts {name table column : String} (found : Text.parts '.' name = [table, column])
    (plain : Text.splitAlias name = none) : '.' ∉ table.toList ∧ Text.splitAlias table = none := by
  have parts : Text.split '.' name.toList = [table.toList, column.toList] := by
    apply (List.map_inj_right fun _ _ => String.ofList_inj.mp).mp
    simpa [Text.parts] using found
  have cut : table.toList ++ '.' :: column.toList = name.toList := by
    have joined := Text.intercalate_split '.' name.toList
    rw [parts] at joined
    simpa [List.intercalate] using joined
  have first : table.toList ∈ Text.split '.' name.toList := by simp [parts]
  refine ⟨Text.not_mem_of_mem_split first, ?_⟩
  simp only [Text.splitAlias, Option.map_eq_none_iff, ← cut] at plain ⊢
  exact Text.cutAlias_eq_none_of_append plain

theorem dotted_eq_segments (t : Target) {name : String} (plain : Text.splitAlias name = none) :
    t.dotted name = ".".intercalate ((t.segments name).map t.dialect.quoteName) := by
  unfold dotted segments
  generalize found : Text.parts '.' name = parts
  match parts with
  | [table, column] =>
    obtain ⟨whole, plainTable⟩ := cut_of_parts found plain
    simp [Target.table, Target.plainTable, plainTable, Text.splitLast_eq_none whole, String.append_assoc]
  | [] | [_] | _ :: _ :: _ :: _ => rfl

theorem parts_of_segments (t : Target) (name : String) : Text.parts '.' name =
    match t.segments name with
    | [table, column] => [String.ofList (table.toList.drop t.tablePrefix.toList.length), column]
    | parts => parts := by
  unfold segments
  generalize Text.parts '.' name = parts
  match parts with
  | [table, column] => simp
  | [] | [_] | _ :: _ :: _ :: _ => rfl

theorem segments_inj {t : Target} {name name' : String} (same : t.segments name = t.segments name') :
    name = name' := by
  have parts : Text.parts '.' name = Text.parts '.' name' := by
    rw [parts_of_segments t name, same, ← parts_of_segments t name']
  exact Text.parts_inj parts

/-- Names without aliases are told apart by what is written for them. -/
theorem dotted_inj {t : Target} {name name' : String} (plain : Text.splitAlias name = none)
    (plain' : Text.splitAlias name' = none) (same : t.dotted name = t.dotted name') : name = name' := by
  rw [dotted_eq_segments t plain, dotted_eq_segments t plain'] at same
  exact segments_inj (Dialect.intercalate_quoteName_inj same)

end Target

end SqlCompiler
