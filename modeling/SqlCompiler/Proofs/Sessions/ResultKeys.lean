import SqlCompiler.Proofs.Aggregates.Paging
import SqlCompiler.Proofs.Quoting.ReadNames
import SqlCompiler.Proofs.Sessions.Schemas

namespace SqlCompiler

namespace Text

theorem trimEnd_isPrefix (cs : List Char) : trimEnd cs <+: cs := by
  induction cs with
  | nil => exact List.nil_prefix
  | cons c cs ih =>
    simp only [trimEnd]
    split
    · split
      · exact List.nil_prefix
      · exact List.cons_prefix_cons.mpr ⟨rfl, List.nil_prefix⟩
    · exact List.cons_prefix_cons.mpr ⟨rfl, ih⟩

theorem trim_isInfix (cs : List Char) : trim cs <:+: cs :=
  (trimEnd_isPrefix _).isInfix.trans (List.dropWhile_suffix _).isInfix

theorem occursIn_iff_isInfix {part cs : List Char} : occursIn part cs ↔ part <:+: cs := by
  induction cs with
  | nil => simp [occursIn]
  | cons c cs ih => rw [occursIn, Bool.or_eq_true, ih, List.isPrefixOf_iff_prefix, List.infix_cons_iff]

theorem cutAlias_eq_none_of_isInfix {cs ds : List Char} (within : cs <:+: ds) (plain : cutAlias ds = none) :
    cutAlias cs = none := by
  obtain ⟨before, behind, rfl⟩ := within
  have front := cutAlias_eq_none_of_append plain
  induction before with
  | nil => exact front
  | cons c before ih =>
    rw [List.cons_append, List.cons_append] at plain
    rw [List.cons_append] at front
    exact ih (cutAlias_cons_eq_none.mp plain).2 (cutAlias_cons_eq_none.mp front).2

theorem cutAlias_eq_some {cs name label : List Char} (found : cutAlias cs = some (name, label)) :
    name <+: cs ∧ cutAlias name = none := by
  induction cs generalizing name with
  | nil => cases found
  | cons c cs ih =>
    rw [cutAlias] at found
    cases here : afterAs? (c :: cs) with
    | some label' =>
      rw [here] at found
      cases found
      exact ⟨List.nil_prefix, rfl⟩
    | none =>
      rw [here] at found
      obtain ⟨⟨name', label'⟩, later, same⟩ := Option.map_eq_some_iff.mp found
      cases same
      obtain ⟨⟨rest, rfl⟩, plain⟩ := ih later
      refine ⟨List.cons_prefix_cons.mpr ⟨rfl, List.prefix_append _ _⟩, cutAlias_cons_eq_none.mpr ⟨?_, plain⟩⟩
      cases front : afterAs? (c :: name') with
      | none => rfl
      | some label'' =>
        have whole := afterAs?_append front rest
        rw [List.cons_append, here] at whole
        cases whole

/-- The name before an alias has no alias and no arrow of its own. -/
theorem isName_of_splitAlias {s name label : String} (plain : hasArrow s = false)
    (found : splitAlias s = some (name, label)) : IsName name := by
  obtain ⟨⟨front, behind⟩, cut, same⟩ := Option.map_eq_some_iff.mp found
  obtain ⟨rfl, -⟩ := Prod.mk.inj same
  obtain ⟨before, uncut⟩ := cutAlias_eq_some cut
  have within : (String.ofList (trim front)).toList <:+: front := by simpa using trim_isInfix front
  refine ⟨?_, ?_⟩
  · rw [splitAlias, cutAlias_eq_none_of_isInfix within uncut, Option.map_none]
  · rw [hasArrow, contains, Bool.eq_false_iff, ne_eq, occursIn_iff_isInfix] at plain ⊢
    exact fun arrow => plain (arrow.trans (within.trans before.isInfix))

theorem lastPart_of_not_mem {s : String} (whole : '.' ∉ s.toList) : lastPart '.' s = s := by
  simp [lastPart, afterLast, splitLast_eq_none whole]

theorem lastPart_last_cut (front : String) {last : String} (whole : '.' ∉ last.toList) :
    lastPart '.' (front ++ "." ++ last) = last := by
  simp [lastPart, afterLast, splitLast_append _ whole]

theorem lastPart_eq_self {s : String} : lastPart '.' s = s ↔ '.' ∉ s.toList := by
  refine ⟨fun same => ?_, lastPart_of_not_mem⟩
  rcases whole_or_last_cut s with whole | ⟨front, last, rfl, whole⟩
  · exact whole
  · rw [lastPart_last_cut front whole] at same
    exact same ▸ whole

theorem parts_getLast (s : String) : (parts '.' s).getLast? = some (lastPart '.' s) := by
  rcases whole_or_last_cut s with whole | ⟨front, last, rfl, whole⟩
  · rw [parts_of_not_mem whole, lastPart_of_not_mem whole, List.getLast?_singleton]
  · rw [parts_last_cut front whole, lastPart_last_cut front whole, List.getLast?_concat]

end Text

/-- The name that a server gives to a column of its answer. -/
def Dialect.outputName (d : Dialect) (item : String) : Option String :=
  match d.readNames item.toList with
  | some (names, []) => names.getLast?
  | some (_, ' ' :: 'A' :: 'S' :: ' ' :: label) =>
    match d.readName label with
    | some (name, []) => some name
    | _ => none
  | _ => none

namespace Target

variable {t : Target} {column name label : String}

theorem segments_getLast (t : Target) (name : String) :
    (t.segments name).getLast? = (Text.parts '.' name).getLast? := by
  unfold segments
  split
  next found => rw [found]; rfl
  next => rfl

theorem outputName_plain (plain : Text.IsName column) :
    t.dialect.outputName (t.column column) = (Text.parts '.' column).getLast? := by
  have read := readNames_dotted (t := t) plain.noAlias t.dialect.endsName_nil
  rw [List.append_nil] at read
  rw [column_of_isName plain, Dialect.outputName, read, ← segments_getLast t]

theorem outputName_labelled (plain : Text.hasArrow column = false)
    (labelled : Text.splitAlias column = some (name, label)) :
    t.dialect.outputName (t.column column) = some label := by
  have isName := Text.isName_of_splitAlias plain labelled
  have written : t.column column = t.dotted name ++ " AS " ++ t.dialect.quoteName label := by
    simp [Target.column, labelled, plainColumn, isName.noArrow]
  have ends (rest : List Char) : t.dialect.EndsName (' ' :: rest) := by
    constructor <;> cases t.dialect <;> simp [Dialect.closeQuote]
  have read := readNames_dotted (t := t) isName.noAlias (ends ('A' :: 'S' :: ' ' :: (t.dialect.quoteName label).toList))
  have chars : (t.dotted name ++ " AS " ++ t.dialect.quoteName label).toList =
      (t.dotted name).toList ++ ' ' :: 'A' :: 'S' :: ' ' :: (t.dialect.quoteName label).toList := by simp
  have alone : ([] : List Char).head? ≠ some t.dialect.closeQuote := by simp
  have readLabel := Dialect.readName_quoteName alone label
  rw [List.append_nil] at readLabel
  rw [Dialect.outputName, written, chars, read]
  simp only [readLabel]

end Target

def Text.label? (column : String) : Option String := (splitAlias column).map Prod.snd

def Row.single (name : String) (value : Value) : Row := .ofList [(name, value)]

theorem Row.single_get? (name key : String) (value : Value) :
    (single name value).get? key = if key = name then some value else none := by
  have looked : (single name value).get? key = match key == name with
      | true => some value
      | false => none := rfl
  rw [looked]
  by_cases same : key = name
  · rw [if_pos same, beq_iff_eq.mpr same]
  · rw [if_neg same, beq_eq_false_iff_ne.mpr same]

namespace Query

variable {t : Target} {column : String}

theorem resultKey_eq_iff {name : String}
    (named : (Text.label? column <|> (Text.parts '.' column).getLast?) = some name) :
    resultKey column = name ↔ ∀ label ∈ Text.label? column, '.' ∉ label.toList := by
  unfold Text.label? at named ⊢
  cases split : Text.splitAlias column with
  | none =>
    have own : resultKey column = Text.lastPart '.' column := by simp [resultKey, aliasOf, split]
    have last : (Text.parts '.' column).getLast? = some name := by simpa [split] using named
    rw [Text.parts_getLast] at last
    rw [own, Option.some.inj last]
    simp
  | some pair =>
    obtain ⟨front, label⟩ := pair
    have own : resultKey column = Text.lastPart '.' label := by simp [resultKey, aliasOf, split]
    have same : label = name := by simpa [split] using named
    rw [own, ← same, Text.lastPart_eq_self]
    simp

theorem pluck_single (q : Query) {server : Server} {sent after : List Request} {name : String} {values : List Value}
    (fetched : (q.select [column]).fetch t server sent = (.ok (values.map (Row.single name)), after)) :
    q.pluck t column server sent =
      (.ok (if resultKey column = name then values else values.map fun _ => .null), after) := by
  have read : q.pluck t column server sent =
      (.ok ((values.map (Row.single name)).map fun r => (r.get? (resultKey column)).getD .null), after) :=
    Session.bind_ok fetched
  rw [read]
  by_cases same : resultKey column = name <;> simp [Function.comp_def, Row.single_get?, same]

theorem fetchValue_single (q : Query) {server : Server} {sent after : List Request} {name : String}
    {value : Option Value}
    (fetched : (q.select [column]).fetchFirst t server sent = (.ok (value.map (Row.single name)), after)) :
    q.fetchValue t column server sent = (.ok (if resultKey column = name then value else none), after) := by
  have read : q.fetchValue t column server sent =
      (.ok ((value.map (Row.single name)).bind (·.get? (resultKey column))), after) := Session.bind_ok fetched
  rw [read]
  by_cases same : resultKey column = name <;> cases value <;> simp [Row.single_get?, same]

/-- The column that is selected for its values has the name of its alias, and else of its last part. The values that a
server sends under this name are read exactly if the alias has no dot; otherwise there is no value, or null for it. -/
theorem column_read_iff (t : Target) {column : String} (plain : Text.hasArrow column = false) :
    ∃ name, t.dialect.outputName (t.column column) = some name ∧
      (Text.label? column <|> (Text.parts '.' column).getLast?) = some name ∧
      (resultKey column = name ↔ ∀ label ∈ Text.label? column, '.' ∉ label.toList) ∧
      ∀ (q : Query) (server : Server) (sent after : List Request),
        (∀ values : List Value,
          (q.select [column]).fetch t server sent = (.ok (values.map (Row.single name)), after) →
          q.pluck t column server sent =
            (.ok (if resultKey column = name then values else values.map fun _ => .null), after)) ∧
        ∀ value : Option Value,
          (q.select [column]).fetchFirst t server sent = (.ok (value.map (Row.single name)), after) →
          q.fetchValue t column server sent = (.ok (if resultKey column = name then value else none), after) := by
  obtain ⟨name, output, named⟩ : ∃ name, t.dialect.outputName (t.column column) = some name ∧
      (Text.label? column <|> (Text.parts '.' column).getLast?) = some name := by
    cases split : Text.splitAlias column with
    | none =>
      refine ⟨Text.lastPart '.' column, ?_, ?_⟩
      · rw [Target.outputName_plain ⟨split, plain⟩, Text.parts_getLast]
      · simp [Text.label?, split, Text.parts_getLast]
    | some pair =>
      obtain ⟨front, label⟩ := pair
      exact ⟨label, Target.outputName_labelled plain split, by simp [Text.label?, split]⟩
  refine ⟨name, output, named, resultKey_eq_iff named, fun q server sent after => ⟨?_, ?_⟩⟩
  · exact fun values => q.pluck_single
  · exact fun value => q.fetchValue_single

theorem fetch_eq {q : Query} {s : Statement} (compiled : q.selectStatement t = .ok s) (server : Server)
    (sent : List Request) : q.fetch t server sent = (server.rows sent s, sent ++ [⟨.rows, s⟩]) :=
  Session.bind_ok (by rw [Session.of, compiled])

theorem fetchFirst_eq {q : Query} {s : Statement} {server : Server} {sent : List Request} {rows : List Row}
    (compiled : (q.withLimit 1).selectStatement t = .ok s) (answered : server.rows sent s = .ok rows) :
    q.fetchFirst t server sent = (.ok rows.head?, sent ++ [⟨.rows, s⟩]) := by
  have fetched : (q.withLimit 1).fetch t server sent = (.ok rows, sent ++ [⟨.rows, s⟩]) := by
    rw [fetch_eq compiled, answered]
  exact Session.bind_ok fetched

theorem wage_read : ∃ after,
    (firstOf "staff").pluck prefixed "staff.pay As wage" (answering [.single "wage" (.int 5)]) [] =
      (.ok [.int 5], after) := by
  obtain ⟨s, compiled⟩ : ∃ s, ((firstOf "staff").select ["staff.pay As wage"]).selectStatement prefixed = .ok s :=
    ⟨_, rfl⟩
  have plain : Text.hasArrow "staff.pay As wage" = false := rfl
  obtain ⟨name, -, named, same, reads⟩ := column_read_iff prefixed plain
  have wage : "wage" = name := Option.some.inj named
  subst wage
  have read := (reads (firstOf "staff") (answering [.single "wage" (.int 5)]) [] _).1 [.int 5] (fetch_eq compiled _ _)
  rw [if_pos (same.mpr (by decide))] at read
  exact ⟨_, read⟩

/-- The server names the column by its alias, where no value is looked for. -/
theorem dottedAlias_missed :
    prefixed.dialect.outputName (prefixed.column "pay as staff.pay") = some "staff.pay" ∧
      resultKey "pay as staff.pay" = "pay" ∧
      ((firstOf "staff").fetchValue prefixed "pay as staff.pay" (answering [.single "staff.pay" (.int 5)]) []).1 =
        .ok none := by
  obtain ⟨s, compiled⟩ : ∃ s,
      (((firstOf "staff").select ["pay as staff.pay"]).withLimit 1).selectStatement prefixed = .ok s := ⟨_, rfl⟩
  refine ⟨Target.outputName_labelled rfl rfl, rfl, ?_⟩
  have row : (answering [.single "staff.pay" (.int 5)]).rows [] s = .ok [.single "staff.pay" (.int 5)] := rfl
  have fetched : ((firstOf "staff").select ["pay as staff.pay"]).fetchFirst prefixed
      (answering [.single "staff.pay" (.int 5)]) [] =
        (.ok ((some (.int 5)).map (Row.single "staff.pay")), [] ++ [⟨.rows, s⟩]) := fetchFirst_eq compiled row
  rw [(firstOf "staff").fetchValue_single fetched]
  rfl

end Query

end SqlCompiler
