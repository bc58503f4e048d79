import SqlCompiler.Proofs.Placement.Pieces
import SqlCompiler.Proofs.Placement.RegularQueries
import SqlCompiler.Proofs.Placement.WrittenNames
import SqlCompiler.Select.Comparison

namespace SqlCompiler

/-- The result has the property, or the failure is not one of counting placeholders. -/
inductive Compiles {α : Type} (P : α → Prop) : Except Error α → Prop
  | ok {a : α} (holds : P a) : Compiles P (.ok a)
  | error {e : Error} (other : ∀ placeholders bindings, e ≠ .bindingCount placeholders bindings) :
    Compiles P (.error e)

namespace Compiles

theorem pure {α : Type} {P : α → Prop} {a : α} (holds : P a) : Compiles P (Pure.pure a) := .ok holds

theorem bind {α β : Type} {P : α → Prop} {Q : β → Prop} {first : Except Error α} {next : α → Except Error β}
    (result : Compiles P first) (later : ∀ a, P a → Compiles Q (next a)) : Compiles Q (first >>= next) := by
  cases result with
  | ok holds => exact later _ holds
  | error other => exact .error other

theorem bind_eq {α β : Type} {P : α → Prop} {Q : β → Prop} {first : Except Error α} {next : α → Except Error β}
    (result : Compiles P first) (later : ∀ a, first = .ok a → P a → Compiles Q (next a)) :
    Compiles Q (first >>= next) := by
  cases result with
  | ok holds => exact later _ rfl holds
  | error other => exact .error other

theorem map {α β : Type} {P : α → Prop} {Q : β → Prop} {first : Except Error α} {f : α → β}
    (result : Compiles P first) (later : ∀ a, P a → Q (f a)) : Compiles Q (first >>= fun a => Pure.pure (f a)) :=
  result.bind fun a holds => .pure (later a holds)

theorem unsupported {α : Type} {P : α → Prop} (t : Target) (feature : Feature) :
    Compiles P (t.unsupported feature : Except Error α) :=
  .error fun _ _ => Error.noConfusion

theorem check (t : Target) (op : Operator) : Compiles (fun _ => True) (t.check op) := by
  unfold Target.check
  split
  · exact .ok True.intro
  · exact unsupported t _

end Compiles

/-- The SQL is sound and binds these values. -/
structure Sql.Binds (d : Dialect) (values : List Value) (s : Sql) : Prop where
  sound : s.Sound d
  values_eq : s.values = values

namespace Sql.Binds

theorem empty (d : Dialect) : Sql.empty.Binds d [] := ⟨sound_empty d, rfl⟩

theorem ofText {d : Dialect} {s : String} (inert : d.Inert s) : (Sql.ofText s).Binds d [] :=
  ⟨sound_ofText.mpr inert, rfl⟩

theorem param (d : Dialect) (v : Value) : (Sql.param v).Binds d [v] := ⟨sound_param d v, rfl⟩

theorem raw {d : Dialect} {sql : String} {values : List Value} (holds : d.Holds sql values.length) :
    (Sql.raw sql values).Binds d values := ⟨sound_raw.mpr holds, values_raw sql values⟩

theorem append {d : Dialect} {first later : List Value} {a b : Sql} (left : a.Binds d first)
    (right : b.Binds d later) : (a ++ b).Binds d (first ++ later) :=
  ⟨sound_append.mpr ⟨left.sound, right.sound⟩, by rw [values_append, left.values_eq, right.values_eq]⟩

theorem after {d : Dialect} {values : List Value} {s : Sql} (binds : s.Binds d values) {word : String}
    (inert : d.Inert word) : (Sql.ofText word ++ s).Binds d values := (ofText inert).append binds

theorem before {d : Dialect} {values : List Value} {s : Sql} (binds : s.Binds d values) {word : String}
    (inert : d.Inert word) : (s ++ Sql.ofText word).Binds d values := by
  simpa using binds.append (ofText inert)

theorem afterPlain {d : Dialect} {values : List Value} {s : Sql} (binds : s.Binds d values) {cs : List Char}
    (plain : cs.all isPlain = true) : (Sql.ofText (String.ofList cs) ++ s).Binds d values :=
  binds.after (Dialect.inert_chars plain)

theorem beforePlain {d : Dialect} {values : List Value} {s : Sql} (binds : s.Binds d values) {cs : List Char}
    (plain : cs.all isPlain = true) : (s ++ Sql.ofText (String.ofList cs)).Binds d values :=
  binds.before (Dialect.inert_chars plain)

theorem within {d : Dialect} {values : List Value} {s : Sql} (binds : s.Binds d values) {cs ds : List Char}
    (opens : cs.all isPlain = true) (closes : ds.all isPlain = true) :
    (Sql.ofText (String.ofList cs) ++ s ++ Sql.ofText (String.ofList ds)).Binds d values :=
  (binds.afterPlain opens).beforePlain closes

end Sql.Binds

theorem Operand.sql_sound {d : Dialect} {value : Operand} (sound : value.Sound d) : value.sql.Sound d := by
  cases value with
  | value v => exact Sql.sound_param d v
  | raw sql => exact Sql.sound_raw.mpr sound

theorem Operand.sql_binds {d : Dialect} {value : Operand} (sound : value.Sound d) :
    value.sql.Binds d value.bindings := ⟨sql_sound sound, value.sql_values⟩

theorem parameters_sound {d : Dialect} {operands : List Operand} (all : ∀ value ∈ operands, value.Sound d) :
    (parameters operands).Sound d := by
  apply Sql.sound_join (Dialect.inert_chars rfl)
  intro part member
  obtain ⟨value, inOperands, rfl⟩ := List.mem_map.mp member
  exact Operand.sql_sound (all value inOperands)

theorem parameters_binds {d : Dialect} {operands : List Operand} (all : ∀ value ∈ operands, value.Sound d) :
    (parameters operands).Binds d (operands.flatMap Operand.bindings) :=
  ⟨parameters_sound all, parameters_values operands⟩

theorem Operator.sql_inert (d : Dialect) (op : Operator) : d.Inert op.sql := by
  cases op <;> exact Dialect.inert_chars rfl

theorem notWord_inert (d : Dialect) (negated : Bool) : d.Inert (notWord negated) := by
  cases negated <;> exact Dialect.inert_chars rfl

theorem Nat.toString_inert (d : Dialect) (n : Nat) : d.Inert (toString n) := by
  have plain : PlainText (toString n) := by
    intro c member
    rw [Nat.toString_eq_ofList_toDigits, String.toList_ofList] at member
    exact isPlain_of_isDigit (Nat.isDigit_of_mem_toDigits (by decide) (by decide) member)
  exact plain.inert d

theorem Int.toString_inert (d : Dialect) (n : Int) : d.Inert (toString n) := by
  cases n with
  | ofNat n => exact Nat.toString_inert d n
  | negSucc n => exact Dialect.Inert.append (Dialect.inert_chars rfl) (Nat.toString_inert d (n + 1))

namespace Target

section

variable {t : Target} (plainPrefix : PlainText t.tablePrefix)
include plainPrefix

theorem comparison_binds {column : String} {value : Operand} (plain : PlainText column)
    (sound : value.Sound t.dialect) (op : Operator) :
    (t.comparison column op value).Binds t.dialect value.bindings := by
  have name := column_inert plainPrefix plain
  have word := op.sql_inert t.dialect
  have operand := Operand.sql_sound sound
  refine ⟨?_, ?_⟩
  · unfold comparison
    repeat' split
    all_goals simp only [Sql.sound_append, Sql.sound_ofText]
    all_goals and_intros
    all_goals first
      | with_reducible assumption
      | exact Dialect.inert_chars rfl
  · unfold comparison
    repeat' split
    all_goals simp [Operand.sql_values]

theorem membership_binds {column : String} {values : List Operand} (plain : PlainText column)
    (all : ∀ value ∈ values, value.Sound t.dialect) (negated : Bool) :
    (t.membership column values negated).Binds t.dialect (values.flatMap Operand.bindings) := by
  have name := column_inert plainPrefix plain
  have word := notWord_inert t.dialect negated
  have operands := parameters_sound all
  unfold membership
  split
  · rename_i nothing
    have none : values = [] := List.isEmpty_iff.mp nothing
    subst none
    split <;> exact ⟨Sql.sound_ofText.mpr (Dialect.inert_chars rfl), rfl⟩
  · refine ⟨?_, ?_⟩
    · split
      · rename_i postgres
        have opens : t.dialect.Inert (if negated then " <> ALL(ARRAY[" else " = ANY(ARRAY[") := by
          rw [postgres]
          split <;> exact Dialect.inert_scan rfl rfl
        have closes : t.dialect.Inert "])" := by
          rw [postgres]
          exact Dialect.inert_scan rfl rfl
        simp only [Sql.sound_append, Sql.sound_ofText]
        exact ⟨⟨⟨name, opens⟩, operands⟩, closes⟩
      all_goals
        simp only [Sql.sound_append, Sql.sound_ofText]
        exact ⟨⟨⟨⟨⟨name, Dialect.inert_chars rfl⟩, word⟩, Dialect.inert_chars rfl⟩, operands⟩, Dialect.inert_chars rfl⟩
    · split
      all_goals simp [parameters_values]

omit plainPrefix in
theorem strftime_inert (d : Dialect) (part : DatePart) {rest : String} (inert : d.Inert rest) :
    d.Inert ("STRFTIME('" ++ strftimeFormat part ++ "', " ++ rest) := by
  have scanned : ∀ first format last : List Char, Quoting.after d .outside (first ++ format ++ last) = .outside →
      placeholderCount d .outside (first ++ format ++ last) = 0 →
      d.Inert (String.ofList first ++ String.ofList format ++ String.ofList last) := by
    intro first format last closed none
    rw [← String.ofList_append, ← String.ofList_append]
    exact Dialect.inert_scan closed none
  refine Dialect.Inert.append ?_ inert
  cases part <;> cases d <;> exact scanned _ _ _ rfl rfl

theorem datePart_inert {column : String} (plain : PlainText column) (part : DatePart) :
    t.dialect.Inert (t.datePart column part) := by
  have name := column_inert plainPrefix plain
  have function : t.dialect.Inert part.function := by cases part <;> exact Dialect.inert_chars rfl
  have word : t.dialect.Inert part.name := by cases part <;> exact Dialect.inert_chars rfl
  unfold datePart
  split
  case h_7 => exact (strftime_inert t.dialect _ name).append (Dialect.inert_chars rfl)
  all_goals
    with_reducible repeat' apply Dialect.Inert.append
    all_goals first
      | with_reducible assumption
      | exact Dialect.inert_chars rfl

theorem datePartComparison_binds {column : String} {value : Operand} (plain : PlainText column)
    (sound : value.Sound t.dialect) (part : DatePart) (op : Operator) :
    (t.datePartComparison column part op value).Binds t.dialect value.bindings := by
  have name := datePart_inert plainPrefix plain part
  have word := op.sql_inert t.dialect
  have operand := Operand.sql_sound sound
  refine ⟨?_, ?_⟩
  · unfold datePartComparison
    split
    all_goals simp only [Sql.sound_append, Sql.sound_ofText]
    all_goals and_intros
    all_goals first
      | with_reducible assumption
      | exact Dialect.inert_chars rfl
  · unfold datePartComparison
    split
    all_goals simp [Operand.sql_values]

theorem jsonArguments_inert {field : String} {path : List String} (plain : PlainText field)
    (steps : ∀ step ∈ path, PlainText step) : t.dialect.Inert (t.jsonArguments field path) := by
  have name := dotted_inert plainPrefix plain
  unfold jsonArguments
  split
  · exact name
  · apply Dialect.Inert.append
    · exact Dialect.Inert.append name (Dialect.inert_chars rfl)
    · exact jsonPath_inert steps t.dialect

theorem jsonDocument_inert {field : String} (plain : PlainText field)
    (escapes : t.dialect.hasBackslashEscapes = false) (path : List String) :
    t.dialect.Inert (t.jsonDocument field path) := by
  apply Dialect.Inert.append (dotted_inert plainPrefix plain)
  apply inert_join
  intro part member
  obtain ⟨step, inPath, rfl⟩ := List.mem_map.mp member
  exact Dialect.Inert.append (Dialect.inert_chars rfl) (postgresStep_inert escapes step)

theorem jsonContains_binds {column : String} (plain : PlainText column) (document : Json) :
    Compiles (Sql.Binds t.dialect [.json document]) (t.jsonContains column document) := by
  rcases found : Text.fieldAndPath column with ⟨field, path⟩
  have parts := plain.fieldAndPath found
  have name := dotted_inert plainPrefix parts.1
  have literal := jsonPath_inert parts.2 t.dialect
  have arguments := jsonArguments_inert plainPrefix parts.1 parts.2
  have value : t.dialect.Inert (t.dialect.quoteName "value") := quoteName_inert (PlainText.of_chars rfl) t.dialect
  have bound := Sql.Binds.param t.dialect (.json document)
  simp only [jsonContains, found]
  split
  · rename_i postgres
    have inner := jsonDocument_inert plainPrefix parts.1 (by rw [postgres]; rfl) path
    exact .ok (((Sql.Binds.ofText inner).within rfl rfl).append bound)
  · have opened : (Sql.ofText "JSON_CONTAINS(" ++ Sql.ofText (t.dotted field) ++ Sql.ofText ", " ++
        Sql.param (.json document)).Binds t.dialect [.json document] :=
      ((Sql.Binds.ofText name).within rfl rfl).append bound
    split
    · exact .ok (opened.beforePlain rfl)
    · exact .ok (((opened.beforePlain rfl).before literal).beforePlain rfl)
  · exact .ok ((((bound.beforePlain rfl).before value).beforePlain rfl).before arguments |>.beforePlain rfl)
  · exact Compiles.unsupported t _

omit plainPrefix in
theorem jsonKey_plain {column : String} {path : List String} (steps : ∀ step ∈ path, PlainText step) :
    Compiles (fun result => (∀ step ∈ result.1, PlainText step) ∧ PlainText result.2) (jsonKey column path) := by
  unfold jsonKey
  split
  · rename_i last found
    exact .ok ⟨fun step member => steps step (List.dropLast_subset path member),
      steps last (List.mem_of_getLast? found)⟩
  · exact .error fun _ _ => Error.noConfusion

omit plainPrefix in
theorem postgresHasKey_inert {d : Dialect} (escapes : d.hasBackslashEscapes = false) {parent : String}
    (inert : d.Inert parent) (key : String) : d.Inert (postgresHasKey parent key) := by
  have quoted : d.Inert ")::jsonb) = 'array' THEN JSONB_ARRAY_LENGTH((" := by
    cases d <;> exact Dialect.inert_scan rfl rfl
  unfold postgresHasKey
  split
  · rename_i index _
    have number := Int.toString_inert d (lengthFor index)
    with_reducible repeat' apply Dialect.Inert.append
    all_goals first
      | with_reducible assumption
      | exact Dialect.inert_chars rfl
  · have literal := quoteText_inert escapes key
    with_reducible repeat' apply Dialect.Inert.append
    all_goals first
      | with_reducible assumption
      | exact Dialect.inert_chars rfl

theorem jsonHasKey_inert {column : String} (plain : PlainText column) :
    Compiles t.dialect.Inert (t.jsonHasKey column) := by
  rcases found : Text.fieldAndPath column with ⟨field, path⟩
  have parts := plain.fieldAndPath found
  have name := dotted_inert plainPrefix parts.1
  have literal := jsonPath_inert parts.2 t.dialect
  simp only [jsonHasKey, found]
  apply Compiles.bind (jsonKey_plain parts.2)
  rintro ⟨parent, key⟩ ⟨steps, last⟩
  split
  · rename_i postgres
    have escapes : t.dialect.hasBackslashEscapes = false := by rw [postgres]; rfl
    exact .ok (postgresHasKey_inert escapes (jsonDocument_inert plainPrefix parts.1 escapes parent) key)
  · have mode : t.dialect.Inert ", 'one', " := by cases t.dialect <;> exact Dialect.inert_scan rfl rfl
    exact .ok ((((Dialect.inert_chars rfl |>.append name).append mode).append literal).append
      (Dialect.inert_chars rfl))
  · exact .ok (((Dialect.inert_chars rfl |>.append name).append (Dialect.inert_chars rfl)).append literal |>.append
      (Dialect.inert_chars rfl))
  · rename_i sqlServer
    have quoted := quoteText_inert (d := t.dialect) (by rw [sqlServer]; rfl) (Text.unbracket key)
    have word : t.dialect.Inert (t.dialect.quoteName "key") := quoteName_inert (PlainText.of_chars rfl) t.dialect
    have arguments := jsonArguments_inert plainPrefix parts.1 steps
    exact .ok (((((quoted.append (Dialect.inert_chars rfl)).append word).append (Dialect.inert_chars rfl)).append
      arguments).append (Dialect.inert_chars rfl))

theorem jsonLength_inert {column : String} (plain : PlainText column) : t.dialect.Inert (t.jsonLength column) := by
  rcases found : Text.fieldAndPath column with ⟨field, path⟩
  have parts := plain.fieldAndPath found
  have arguments := jsonArguments_inert plainPrefix parts.1 parts.2
  simp only [jsonLength, found]
  split
  · rename_i postgres
    have document := jsonDocument_inert plainPrefix parts.1 (by rw [postgres]; rfl) path
    exact (Dialect.inert_chars rfl |>.append document).append (Dialect.inert_chars rfl)
  all_goals exact (Dialect.inert_chars rfl |>.append arguments).append (Dialect.inert_chars rfl)

theorem fullText_binds {columns : List String} (plain : ∀ column ∈ columns, PlainText column) (terms : String)
    (options : FullTextOptions) :
    Compiles (Sql.Binds t.dialect [.text terms]) (t.fullText columns terms options) := by
  have names := columns_inert plainPrefix plain
  have bound := Sql.Binds.param t.dialect (.text terms)
  unfold fullText
  simp only
  split
  · have mode : Compiles t.dialect.Inert (t.mysqlSearchMode options) := by
      unfold mysqlSearchMode
      split
      · split <;> exact .ok (Dialect.inert_chars rfl)
      · exact .ok (Dialect.inert_chars rfl)
      all_goals exact Compiles.unsupported t _
    apply mode.map
    intro mode inert
    have against : (Sql.ofText "MATCH (" ++ Sql.ofText (t.columns columns) ++ Sql.ofText ") AGAINST (" ++
        Sql.param (.text terms)).Binds t.dialect [.text terms] :=
      ((Sql.Binds.ofText names).within rfl rfl).append bound
    exact ((against.beforePlain rfl).before inert).beforePlain rfl
  · rename_i postgres
    have language := quoteText_inert (d := t.dialect) (by rw [postgres]; rfl) (options.language.getD "english")
    have function : t.dialect.Inert (postgresSearchFunction options.mode) := by
      cases options.mode <;> exact Dialect.inert_chars rfl
    have vectors : t.dialect.Inert (" || ".intercalate (columns.map fun c =>
        "TO_TSVECTOR(" ++ quoteText (options.language.getD "english") ++ ", " ++ t.column c ++ ")")) := by
      apply inert_intercalate (Dialect.inert_chars rfl)
      intro part member
      obtain ⟨name, inColumns, rfl⟩ := List.mem_map.mp member
      have column := column_inert plainPrefix (plain name inColumns)
      exact (((Dialect.inert_chars rfl |>.append language).append (Dialect.inert_chars rfl)).append column).append
        (Dialect.inert_chars rfl)
    exact .ok (((((((Sql.Binds.ofText vectors).within rfl rfl).before function).beforePlain rfl).before
      language).beforePlain rfl).append bound |>.beforePlain rfl)
  all_goals exact Compiles.unsupported t _

end

end Target

end SqlCompiler
