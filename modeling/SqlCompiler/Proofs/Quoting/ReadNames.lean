import Mathlib.Data.List.ModifyLast
import SqlCompiler.Proofs.Quoting.TableLiterals

namespace SqlCompiler

def readQuoted (quote : Char) : List Char → Option (List Char × List Char)
  | [] => none
  | [c] => if c = quote then some ([], []) else none
  | c :: next :: cs =>
    if c = quote then
      if next = quote then (readQuoted quote cs).map fun (name, rest) => (quote :: name, rest)
      else some ([], next :: cs)
    else (readQuoted quote (next :: cs)).map fun (name, rest) => (c :: name, rest)

theorem readQuoted_end {quote : Char} {rest : List Char} (alone : rest.head? ≠ some quote) :
    readQuoted quote (quote :: rest) = some ([], rest) := by
  cases rest with
  | nil => simp [readQuoted]
  | cons next cs =>
    have other : next ≠ quote := fun same => alone (by rw [same, List.head?_cons])
    simp [readQuoted, other]

theorem readQuoted_self {quote c : Char} (other : c ≠ quote) (cs : List Char) :
    readQuoted quote (c :: cs) = (readQuoted quote cs).map fun (name, rest) => (c :: name, rest) := by
  cases cs with
  | nil => simp [readQuoted, other]
  | cons next cs => rw [readQuoted, if_neg other]

theorem readQuoted_double {quote : Char} {rest : List Char} (alone : rest.head? ≠ some quote) (name : List Char) :
    readQuoted quote (Text.double quote name ++ quote :: rest) = some (name, rest) := by
  induction name with
  | nil => exact readQuoted_end alone
  | cons c name ih =>
    by_cases same : c = quote
    · simp [Text.double, same, readQuoted, ih]
    · simp [Text.double, same, readQuoted_self, ih]

theorem readQuoted_length {quote : Char} {cs name rest : List Char} (read : readQuoted quote cs = some (name, rest)) :
    rest.length < cs.length := by
  fun_induction readQuoted quote cs generalizing name with
  | case1 | case3 => cases read
  | case2 | case5 => cases read; simp
  | case4 cs ih | case6 _ _ cs _ ih =>
    obtain ⟨⟨later, rest'⟩, found, same⟩ := Option.map_eq_some_iff.mp read
    cases same
    have shorter := ih found
    simp only [List.length_cons] at shorter ⊢
    omega

namespace Dialect

def readName (d : Dialect) : List Char → Option (String × List Char)
  | [] => none
  | c :: cs =>
    if c = '*' then some ("*", cs)
    else if c = d.openQuote then (readQuoted d.closeQuote cs).map fun (name, rest) => (String.ofList name, rest)
    else none

theorem readName_length {d : Dialect} {cs : List Char} {name : String} {rest : List Char}
    (read : d.readName cs = some (name, rest)) : rest.length < cs.length := by
  unfold readName at read
  split at read
  · cases read
  · split at read
    · cases read
      simp
    · split at read
      · obtain ⟨⟨name', rest'⟩, found, same⟩ := Option.map_eq_some_iff.mp read
        cases same
        exact Nat.lt_succ_of_lt (readQuoted_length found)
      · cases read

/-- The names between dots at the start of a text, and what stands behind them. -/
def readNames (d : Dialect) (cs : List Char) : Option (List String × List Char) :=
  match _found : d.readName cs with
  | none => none
  | some (name, '.' :: later) => (d.readNames later).map fun (names, rest) => (name :: names, rest)
  | some (name, rest) => some ([name], rest)
termination_by cs.length
decreasing_by exact Nat.lt_of_succ_lt (readName_length _found)

variable {d : Dialect} {rest : List Char}

theorem readName_quoteName (alone : rest.head? ≠ some d.closeQuote) (name : String) :
    d.readName ((d.quoteName name).toList ++ rest) = some (name, rest) := by
  by_cases star : name = "*"
  · simp [star, quoteName, readName]
  · simp [star, quoteName, readName, d.openQuote_ne_star, readQuoted_double alone]

theorem readNames_dot {cs later : List Char} {name : String} (read : d.readName cs = some (name, '.' :: later)) :
    d.readNames cs = (d.readNames later).map fun (names, rest) => (name :: names, rest) := by
  rw [readNames]
  split <;> simp_all

theorem readNames_end {cs : List Char} {name : String} (read : d.readName cs = some (name, rest))
    (ends : rest.head? ≠ some '.') : d.readNames cs = some ([name], rest) := by
  rw [readNames]
  split
  next none => rw [read] at none; cases none
  next name' later found =>
    rw [read] at found
    cases found
    exact absurd rfl ends
  next name' rest' found =>
    rw [read] at found
    cases found
    rfl

/-- What ends a name that is written: neither another part nor one more quote. -/
def EndsName (d : Dialect) (rest : List Char) : Prop := rest.head? ≠ some d.closeQuote ∧ rest.head? ≠ some '.'

theorem endsName_nil (d : Dialect) : d.EndsName [] := ⟨nofun, nofun⟩

theorem readNames_intercalate (ends : d.EndsName rest) (name : String) (names : List String) :
    d.readNames ((".".intercalate ((name :: names).map d.quoteName)).toList ++ rest) = some (name :: names, rest) := by
  induction names generalizing name with
  | nil => exact readNames_end (readName_quoteName ends.1 name) ends.2
  | cons next names ih =>
    have behind : (d.afterDot (next :: names)).toList ++ rest =
        '.' :: ((".".intercalate ((next :: names).map d.quoteName)).toList ++ rest) := by
      simp only [afterDot, List.isEmpty_cons, Bool.false_eq_true, if_false, String.toList_append]
      rfl
    have dot (later : List Char) : ('.' :: later).head? ≠ some d.closeQuote := by cases d <;> simp [closeQuote]
    rw [intercalate_quoteName_cons, String.toList_append, List.append_assoc, behind,
      readNames_dot (readName_quoteName (dot _) name), ih, Option.map_some]

end Dialect

namespace Text

theorem split_sep (sep : Char) (cs ds : List Char) : split sep (cs ++ sep :: ds) = split sep cs ++ split sep ds := by
  induction cs with
  | nil => simp [split]
  | cons c cs ih =>
    obtain ⟨part, parts, some⟩ := List.exists_cons_of_ne_nil (split_ne_nil sep cs)
    by_cases same : c = sep
    · simp [split, same, ih]
    · simp [split, same, ih, some]

theorem whole_or_last_cut (s : String) :
    '.' ∉ s.toList ∨ ∃ front last : String, s = front ++ "." ++ last ∧ '.' ∉ last.toList := by
  have cut (cs : List Char) : '.' ∉ cs ∨ ∃ front last, cs = front ++ '.' :: last ∧ '.' ∉ last := by
    induction cs with
    | nil => exact .inl List.not_mem_nil
    | cons c cs ih =>
      rcases ih with whole | ⟨front, last, rfl, whole⟩
      · by_cases dot : c = '.'
        · exact .inr ⟨[], cs, by rw [dot, List.nil_append], whole⟩
        · exact .inl fun member => (List.mem_cons.mp member).elim (dot ·.symm) whole
      · exact .inr ⟨c :: front, last, rfl, whole⟩
  refine (cut s.toList).imp_right ?_
  rintro ⟨front, last, shape, whole⟩
  exact ⟨String.ofList front, String.ofList last, String.toList_inj.mp (by simp [shape]), by simpa using whole⟩

theorem parts_last_cut (front : String) {last : String} (whole : '.' ∉ last.toList) :
    parts '.' (front ++ "." ++ last) = parts '.' front ++ [last] := by
  have chars : (front ++ "." ++ last).toList = front.toList ++ '.' :: last.toList := by simp
  rw [parts, chars, split_sep, split_of_not_mem whole, List.map_append]
  simp [parts]

theorem parts_eq_singleton {s part : String} : parts '.' s = [part] ↔ '.' ∉ s.toList ∧ s = part := by
  constructor
  · intro single
    have lists : split '.' s.toList = [part.toList] := by
      apply (List.map_inj_right fun _ _ => String.ofList_inj.mp).mp
      simpa [parts] using single
    have joined := intercalate_split '.' s.toList
    rw [lists] at joined
    have same : part.toList = s.toList := by simpa [List.intercalate] using joined
    exact ⟨same ▸ not_mem_of_mem_split (lists ▸ List.mem_singleton_self _), String.toList_inj.mp same.symm⟩
  · rintro ⟨whole, rfl⟩
    exact parts_of_not_mem whole

end Text

namespace TableRef

def segments (r : TableRef) : List String := r.schema.toList ++ [r.table]

theorem segments_injective : Function.Injective segments := by
  rintro ⟨_ | schema, table⟩ ⟨_ | schema', table'⟩ same <;> simp_all [segments]

theorem quoted_eq_intercalate (d : Dialect) (r : TableRef) :
    r.quoted d = ".".intercalate (r.segments.map d.quoteName) := by
  obtain ⟨_ | schema, table⟩ := r <;> simp [quoted, segments, Target.around]

end TableRef

namespace Target

variable {t : Target} {name : String}

theorem segments_ne_nil (t : Target) (name : String) : t.segments name ≠ [] := by
  have some : Text.parts '.' name ≠ [] := fun none => Text.split_ne_nil '.' _ (List.map_eq_nil_iff.mp none)
  unfold segments
  split
  · exact List.cons_ne_nil _ _
  · exact some

theorem readNames_dotted (plain : Text.splitAlias name = none) {rest : List Char} (ends : t.dialect.EndsName rest) :
    t.dialect.readNames ((t.dotted name).toList ++ rest) = some (t.segments name, rest) := by
  obtain ⟨first, later, parts⟩ := List.exists_cons_of_ne_nil (t.segments_ne_nil name)
  rw [dotted_eq_segments t plain, parts, Dialect.readNames_intercalate ends]

theorem readNames_table (plain : Text.splitAlias name = none) {rest : List Char} (ends : t.dialect.EndsName rest) :
    t.dialect.readNames ((t.table name).toList ++ rest) = some ((t.named name).segments, rest) := by
  obtain ⟨first, later, parts⟩ : ∃ first later, (t.named name).segments = first :: later :=
    List.exists_cons_of_ne_nil (List.append_ne_nil_of_right_ne_nil _ (List.cons_ne_nil _ _))
  rw [table_eq_quoted plain, TableRef.quoted_eq_intercalate, parts, Dialect.readNames_intercalate ends]

theorem named_inj {name' : String} (same : t.named name = t.named name') : name = name' := by
  rcases Text.whole_or_last_cut name with whole | ⟨schema, last, rfl, whole⟩ <;>
    rcases Text.whole_or_last_cut name' with whole' | ⟨schema', last', rfl, whole'⟩ <;>
    simp only [named_of_whole, named_of_schema, whole, whole', not_false_eq_true] at same
  · simpa using same
  · cases congrArg TableRef.schema same
  · cases congrArg TableRef.schema same
  · obtain ⟨schemas, tables⟩ := TableRef.mk.inj same
    rw [Option.some.inj schemas, (String.append_right_inj _).mp tables]

theorem named_segments_eq_iff : (t.named name).segments = (Text.parts '.' name).modifyLast (t.tablePrefix ++ ·) ↔
    name.toList.count '.' ≤ 1 := by
  rcases Text.whole_or_last_cut name with whole | ⟨schema, last, rfl, whole⟩
  · rw [named_of_whole whole, Text.parts_of_not_mem whole, List.count_eq_zero.mpr whole]
    exact iff_of_true rfl (Nat.zero_le 1)
  · have one : (schema ++ "." ++ last).toList.count '.' = schema.toList.count '.' + 1 := by
      simp [List.count_eq_zero.mpr whole]
    rw [named_of_schema schema whole, Text.parts_last_cut schema whole, List.modifyLast_concat, one]
    have segments : TableRef.segments ⟨some schema, t.tablePrefix ++ last⟩ = [schema] ++ [t.tablePrefix ++ last] := rfl
    rw [segments, List.append_left_inj, eq_comm, Text.parts_eq_singleton, and_iff_left rfl, ← List.count_eq_zero]
    omega

/-- A name without an alias is read back from what is written for it, and from nothing else. As a table it is read as
what its last dot divides, so only a name of two parts at most is read part by part. -/
theorem names_read_back (t : Target) {name : String} (plain : Text.splitAlias name = none) :
    t.dialect.readNames (t.dotted name).toList = some (t.segments name, []) ∧
    t.dialect.readNames (t.table name).toList = some ((t.named name).segments, []) ∧
    ((t.named name).segments = (Text.parts '.' name).modifyLast (t.tablePrefix ++ ·) ↔ name.toList.count '.' ≤ 1) ∧
    ∀ other, Text.splitAlias other = none →
      (t.dotted name = t.dotted other → name = other) ∧ (t.table name = t.table other → name = other) := by
  have read := readNames_table (t := t) plain (Dialect.endsName_nil _)
  refine ⟨?_, ?_, named_segments_eq_iff, fun other plain' => ⟨dotted_inj plain plain', fun same => ?_⟩⟩
  · simpa using readNames_dotted plain (Dialect.endsName_nil _)
  · simpa using read
  · have read' := readNames_table (t := t) plain' (Dialect.endsName_nil _)
    rw [← same, read] at read'
    exact named_inj (TableRef.segments_injective (Prod.mk.inj (Option.some.inj read')).1)

theorem userIds_read_back :
    Query.prefixed.dialect.readNames "\"app_users\".\"id\"".toList = some (["app_users", "id"], []) ∧
      Query.prefixed.dialect.readNames "\"users\".\"app_id\"".toList = some (["users", "app_id"], []) := by
  have plain : Text.splitAlias "users.id" = none := rfl
  obtain ⟨dotted, table, -⟩ := names_read_back Query.prefixed plain
  exact ⟨dotted, table⟩

/-- Of three parts of a table's name the first two are quoted as one. -/
theorem threeParts_read_as_two :
    Text.splitAlias "a.b.c" = none ∧
      Query.prefixed.dialect.readNames (Query.prefixed.table "a.b.c").toList = some (["a.b", "app_c"], []) ∧
      Query.prefixed.dialect.readNames (Query.prefixed.table "a.b.c").toList ≠
        some ((Text.parts '.' "a.b.c").modifyLast ("app_" ++ ·), []) := by
  have plain : Text.splitAlias "a.b.c" = none := rfl
  have read := readNames_table (t := Query.prefixed) plain (Dialect.endsName_nil _)
  rw [List.append_nil] at read
  refine ⟨plain, read, fun same => ?_⟩
  rw [read] at same
  have dots := (named_segments_eq_iff (t := Query.prefixed)).mp (Prod.mk.inj (Option.some.inj same)).1
  exact absurd dots (by decide)

end Target

end SqlCompiler
