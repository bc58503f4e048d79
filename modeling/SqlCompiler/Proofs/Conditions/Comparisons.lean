import SqlCompiler.Proofs.Conditions.Names
import SqlCompiler.Proofs.Erasure.Texts
import SqlCompiler.Proofs.Placement.Comparisons

namespace SqlCompiler

/-- The text of a condition. A `NOT` that it begins with would be taken for the negation of the condition. -/
structure Dialect.Stands (d : Dialect) (alone : Bool) (s : String) : Prop where
  spans : d.Spans alone 0 s 0
  unnegated : alone = true → Lexeme.unnegated (lexemes d (.outside 0) s.toList) = true

def Opens (s : String) : Prop := opensApart s.toList = true

theorem Opens.append {a : String} (opens : Opens a) (b : String) : Opens (a ++ b) := by
  unfold Opens opensApart at opens ⊢
  rw [String.toList_append, List.head?_append]
  cases first : a.toList.head? with
  | none => simp [first] at opens
  | some c => simpa [first] using opens

theorem Opens.chars {cs : List Char} (opens : opensApart cs = true) : Opens (String.ofList cs) := by
  rwa [Opens, String.toList_ofList]

theorem Dialect.Spans.stands {d : Dialect} {alone : Bool} {s : String} (spans : d.Spans alone 0 s 0)
    (opens : Opens s) : d.Stands alone s := ⟨spans, fun _ => unnegated_lexemes opens⟩

theorem quoteName_opens (d : Dialect) (name : String) : Opens (d.quoteName name) := by
  unfold Dialect.quoteName
  split
  · rename_i star
    subst star
    exact .chars rfl
  · cases d <;> exact .chars rfl

namespace Target

theorem plainTable_opens (t : Target) (name : String) : Opens (t.plainTable name) := by
  unfold plainTable
  split
  · exact ((quoteName_opens t.dialect _).append _).append _
  · exact quoteName_opens t.dialect _

theorem table_opens (t : Target) (name : String) : Opens (t.table name) := by
  unfold table
  split
  · exact ((t.plainTable_opens _).append _).append _
  · exact t.plainTable_opens name

theorem dotted_opens (t : Target) (name : String) : Opens (t.dotted name) := by
  unfold dotted
  split
  · exact ((t.table_opens _).append _).append _
  · have filled : Text.parts '.' name ≠ [] := fun none =>
      Text.split_ne_nil '.' name.toList (List.map_eq_nil_iff.mp none)
    obtain ⟨first, rest, cut⟩ := List.exists_cons_of_ne_nil filled
    have opens := quoteName_opens t.dialect first
    rw [cut]
    cases rest with
    | nil => simpa using opens
    | cons next rest =>
      rw [List.map_cons, List.map_cons, String.intercalate_cons_cons]
      exact (opens.append _).append _

theorem column_opens (t : Target) (name : String) : Opens (t.column name) := by
  have plain (name : String) : Opens (t.plainColumn name) := by
    unfold plainColumn
    split
    · unfold jsonColumn
      simp only
      split
      case h_4 => exact (t.dotted_opens _).append _
      all_goals
        with_reducible repeat' apply Opens.append
        exact .chars rfl
    · exact t.dotted_opens name
  unfold column
  split
  · exact ((plain _).append _).append _
  · exact plain name

end Target

/-- A fragment in the place of a value is whole and, where it has to be, a condition is not joined by it. -/
def Operand.Fits (d : Dialect) (alone : Bool) : Operand → Prop
  | .value _ => True
  | .raw sql => d.Spans alone 0 sql 0

section

variable {d : Dialect} {alone : Bool}

theorem param_spans : d.Spans alone 0 "?" 0 := by cases d <;> exact .scan rfl rfl

theorem Operand.sql_spans {value : Operand} (fits : value.Fits d alone) : d.Spans alone 0 value.sql.text 0 := by
  cases value with
  | value v => exact param_spans
  | raw sql => exact (Sql.text_raw sql []).symm ▸ fits

theorem Sql.join_spans {cs : List Char} {parts : List Sql}
    (check : (plainlySpans 0 cs 0 && (0 != 0 || startsApart cs) && endsApart cs) = true)
    (all : ∀ part ∈ parts, d.Spans alone 0 part.text 0) :
    d.Spans alone 0 (Sql.join (String.ofList cs) parts).text 0 := by
  rw [Sql.text_join]
  apply Dialect.Spans.intercalate check
  intro text member
  obtain ⟨part, inParts, rfl⟩ := List.mem_map.mp member
  exact all part inParts

theorem parameters_spans {operands : List Operand} (fits : ∀ value ∈ operands, value.Fits d alone) :
    d.Spans alone 0 (parameters operands).text 0 := by
  apply Sql.join_spans rfl
  intro part member
  obtain ⟨value, inOperands, rfl⟩ := List.mem_map.mp member
  exact Operand.sql_spans (fits value inOperands)

theorem Operator.sql_spans (op : Operator) : d.Spans alone 0 op.sql 0 := by
  cases op <;> exact .plain rfl

theorem DatePart.function_spans (part : DatePart) : d.Spans alone 0 part.function 0 := by
  cases part <;> exact .plain rfl

theorem Dialect.Spans.afterNot {j : Nat} {b : String} (second : d.Spans alone 0 b j) (negated : Bool) :
    d.Spans alone 0 (notWord negated ++ b) j := by
  cases negated with
  | false => simpa [notWord] using second
  | true =>
    have word : d.Spans alone 0 ("NOT " ++ b) j := second.afterPlain rfl
    exact word

theorem Dialect.Spans.linkNot {i j : Nat} {a b : String} (first : d.Spans alone i a 0) (negated : Bool) {cs : List Char}
    (second : d.Spans alone 0 b j)
    (check : (plainlySpans 0 cs 0 && (0 != 0 || startsApart cs) && endsApart cs) = true) :
    d.Spans alone i (a ++ String.ofList cs ++ notWord negated ++ b) j := by
  rw [String.append_assoc]
  exact first.link (second.afterNot negated) check

theorem Dialect.Spans.compared {i : Nat} {a : String} (first : d.Spans alone i a 0) (op : Operator) :
    d.Spans alone i (a ++ " " ++ op.sql) 0 := first.link op.sql_spans rfl

end

namespace Target

section

variable {t : Target} {alone : Bool}

theorem comparison_stands {column : String} {value : Operand} (shelters : t.Shelters column)
    (fits : value.Fits t.dialect alone) (op : Operator) :
    t.dialect.Stands alone (t.comparison column op value).text := by
  have name {alone} : t.dialect.Spans alone 0 (t.column column) 0 := column_spans shelters
  have opens := t.column_opens column
  have operand := Operand.sql_spans fits
  have inner : t.dialect.Spans alone 0 ("(" ++ t.column column ++ " " ++ op.sql ++ " " ++ value.sql.text) 1 := by
    have opened : t.dialect.Spans alone 0 ("(" ++ t.column column ++ " ") 1 := .argument 0 name rfl
    exact ((opened.holding op.sql_spans).beforePlain (k := 1) rfl).holding operand.closed
  have plain : t.dialect.Stands alone (t.column column ++ " " ++ op.sql ++ " " ++ value.sql.text) :=
    ((name.link op.sql_spans rfl).link operand rfl).stands ((((opens.append _).append _).append _).append _)
  have inner_opens : Opens ("(" ++ t.column column ++ " " ++ op.sql ++ " " ++ value.sql.text) :=
    (((((Opens.chars rfl).append _).append _).append _).append _).append _
  unfold comparison
  repeat' split
  all_goals simp only [Sql.text_append, Sql.text_ofText]
  · exact (inner.beforePlain rfl).stands (inner_opens.append _)
  · exact ((name.link op.sql_spans rfl).link operand rfl).stands ((((opens.append _).append _).append _).append _)
  · exact plain
  · exact (inner.beforePlain rfl).stands (inner_opens.append _)
  all_goals exact plain

theorem membership_stands {column : String} {values : List Operand} (shelters : t.Shelters column)
    (fits : ∀ value ∈ values, value.Fits t.dialect alone) (negated : Bool) :
    t.dialect.Stands alone (t.membership column values negated).text := by
  have name : t.dialect.Spans alone 0 (t.column column) 0 := column_spans shelters
  have opens := t.column_opens column
  have operands := (parameters_spans fits).closed
  unfold membership
  split
  · split <;> (rw [Sql.text_ofText]; exact (Dialect.Spans.plain rfl).stands (.chars rfl))
  · split
    · rename_i postgres
      have list : t.dialect.Spans alone 0 (if negated then " <> ALL(ARRAY[" else " = ANY(ARRAY[") 1 := by
        rw [postgres]
        cases negated <;> exact .scan rfl rfl
      have closes : t.dialect.Spans alone 1 "])" 0 := by
        rw [postgres]
        exact .scan rfl rfl
      have starts : startsApart (if negated then " <> ALL(ARRAY[" else " = ANY(ARRAY[").toList := by
        cases negated <;> rfl
      simp only [Sql.text_append, Sql.text_ofText]
      refine Dialect.Spans.stands ?_ (((opens.append _).append _).append _)
      exact ((name.append list fun _ => .inr starts).holding operands).before closes rfl
    all_goals
      simp only [Sql.text_append, Sql.text_ofText]
      refine Dialect.Spans.stands ?_ (((((opens.append _).append _).append _).append _).append _)
      exact ((name.linkNot negated (.plain (j := 1) rfl) rfl).holding operands).beforePlain rfl

theorem strftime_spans {d : Dialect} (part : DatePart) :
    d.Spans alone 0 ("STRFTIME('" ++ strftimeFormat part ++ "', ") 1 := by
  have written (first format last : List Char)
      (walked : walk d (.outside 0) (first ++ format ++ last) = some (.outside 1))
      (paired : unpaired 0 (lexemes d (.outside 0) (first ++ format ++ last)) = some 0) :
      d.Spans alone 0 (String.ofList first ++ String.ofList format ++ String.ofList last) 1 := by
    rw [← String.ofList_append, ← String.ofList_append]
    exact .scan walked paired
  cases part <;> cases d <;> exact written _ _ _ rfl rfl

theorem datePart_spans {column : String} (shelters : t.Shelters column) (part : DatePart) :
    t.dialect.Spans alone 0 (t.datePart column part) 0 := by
  have name {alone} : t.dialect.Spans alone 0 (t.column column) 0 := column_spans shelters
  have function {alone} : t.dialect.Spans alone 0 part.function 0 := part.function_spans
  have called : t.dialect.Spans alone 0 (part.function ++ "(" ++ t.column column ++ ")") 0 :=
    ((function.beforePlain (k := 1) rfl).holding name).beforePlain rfl
  unfold datePart
  split
  case h_7 => exact ((strftime_spans _).holding name).beforePlain rfl
  case h_5 | h_6 =>
    exact .arguments 0 0 name function rfl
  case h_8 | h_9 => exact name.link (.plain rfl) rfl
  case h_10 =>
    exact .arguments 0 0 function name rfl
  all_goals exact called

theorem datePart_opens (t : Target) (column : String) (part : DatePart) : Opens (t.datePart column part) := by
  have function : Opens part.function := by cases part <;> exact .chars rfl
  unfold datePart
  split
  case h_8 | h_9 => exact ((t.column_opens column).append _).append _
  all_goals
    with_reducible repeat' apply Opens.append
    all_goals first
      | with_reducible assumption
      | exact .chars rfl

theorem datePartComparison_stands {column : String} {value : Operand} (shelters : t.Shelters column)
    (fits : value.Fits t.dialect alone) (part : DatePart) (op : Operator) :
    t.dialect.Stands alone (t.datePartComparison column part op value).text := by
  have name : t.dialect.Spans alone 0 (t.datePart column part) 0 := datePart_spans shelters part
  have opens := t.datePart_opens column part
  have operand := Operand.sql_spans fits
  have tested := name.compared op
  unfold datePartComparison
  split
  all_goals simp only [Sql.text_append, Sql.text_ofText]
  · refine Dialect.Spans.stands ?_ (((((opens.append _).append _).append _).append _).append _)
    exact ((tested.beforePlain (k := 1) rfl).holding operand.closed).beforePlain rfl
  all_goals
    refine Dialect.Spans.stands ?_ ((((opens.append _).append _).append _).append _)
    exact tested.link operand rfl

theorem jsonArguments_spans {field : String} {path : List String} (keeps : ∀ step ∈ path, t.dialect.KeepsOpen step) :
    t.dialect.Spans alone 0 (t.jsonArguments field path) 0 := by
  unfold jsonArguments
  split
  · exact dotted_spans field
  · exact (dotted_spans field).link (jsonPath_spans keeps) rfl

theorem jsonDocument_closed (escapes : t.dialect.hasBackslashEscapes = false) (field : String) (path : List String) :
    t.dialect.Closed (t.jsonDocument field path) := by
  refine (dotted_spans field).beside (.join fun part member => ?_)
  obtain ⟨step, _, rfl⟩ := List.mem_map.mp member
  exact (Dialect.Spans.plain rfl).beside (postgresStep_spans escapes step)

theorem jsonContains_stands {column : String} (shelters : t.Shelters column) (document : Json) :
    Compiles (fun s => t.dialect.Stands alone s.text) (t.jsonContains column document) := by
  have keeps := shelters.path
  rcases found : Text.fieldAndPath column with ⟨field, path⟩
  rw [found] at keeps
  have value {alone} : t.dialect.Spans alone 0 "?" 0 := param_spans
  have field_closed : t.dialect.Closed (t.dotted field) := dotted_spans field
  have literal (other : t.dialect ≠ .postgres) : t.dialect.Closed (jsonPath path) := jsonPath_spans (keeps other)
  have arguments (other : t.dialect ≠ .postgres) : t.dialect.Closed (t.jsonArguments field path) :=
    jsonArguments_spans (keeps other)
  have word : t.dialect.Closed (t.dialect.quoteName "value") := quoteName_spans "value"
  simp only [jsonContains, found]
  split
  · rename_i postgres
    have document := t.jsonDocument_closed (by rw [postgres]; rfl) field path
    refine .ok ?_
    simp only [Sql.text_append, Sql.text_ofText, Sql.text_param]
    refine Dialect.Spans.stands ?_ ((((Opens.chars rfl).append _).append _).append _)
    exact ((Dialect.Spans.plain (j := 1) rfl).holding document).link value rfl
  · rename_i mysql
    have opened : t.dialect.Spans alone 0 ("JSON_CONTAINS(" ++ t.dotted field ++ ", " ++ "?") 1 :=
      (Dialect.Spans.argument (j := 1) 0 field_closed rfl).holding value
    have opens : Opens ("JSON_CONTAINS(" ++ t.dotted field ++ ", " ++ "?") :=
      (((Opens.chars rfl).append _).append _).append _
    split
    all_goals
      refine .ok ?_
      simp only [Sql.text_append, Sql.text_ofText, Sql.text_param]
    · exact (opened.beforePlain rfl).stands (opens.append _)
    · refine Dialect.Spans.stands ?_ (((opens.append _).append _).append _)
      exact ((opened.beforePlain (k := 1) rfl).holding (literal (by rw [mysql]; decide))).beforePlain rfl
  · rename_i sqlServer
    refine .ok ?_
    simp only [Sql.text_append, Sql.text_ofText, Sql.text_param]
    refine Dialect.Spans.stands ?_ ((((((Opens.chars rfl).append _).append _).append _).append _).append _)
    have selected : t.dialect.Spans alone 0 ("?" ++ " IN (SELECT " ++ t.dialect.quoteName "value") 1 :=
      (value.beforePlain rfl).holding word
    exact ((selected.beforePlain (k := 2) rfl).holding (arguments (by rw [sqlServer]; decide))).beforePlain rfl
  · exact Compiles.unsupported t _

theorem jsonKey_subset {column : String} {path : List String} :
    Compiles (fun result => result.1 ⊆ path) (jsonKey column path) := by
  unfold jsonKey
  split
  · exact .ok (List.dropLast_subset path)
  · exact .error fun _ _ => Error.noConfusion

theorem postgresHasKey_stands {parent : String} (closed : Dialect.Closed .postgres parent) (key : String) :
    Dialect.Stands .postgres alone (postgresHasKey parent key) := by
  unfold postgresHasKey
  split
  · rename_i index _
    have typed : Dialect.Spans .postgres alone 0 ("CASE WHEN JSONB_TYPEOF((" ++ parent) 2 :=
      (Dialect.Spans.plain rfl).holding closed
    have counted : Dialect.Spans .postgres alone 2 ")::jsonb) = 'array' THEN JSONB_ARRAY_LENGTH((" 2 := .scan rfl rfl
    have number : Dialect.Spans .postgres alone 0 (toString (lengthFor index)) 0 := Int.toString_spans _
    refine Dialect.Spans.stands ?_ (((((((Opens.chars rfl).append _).append _).append _).append _).append _).append _)
    exact (((typed.before counted rfl).holding closed).link number rfl).beforePlain rfl
  · have literal : Dialect.Closed .postgres (quoteText key) := quoteText_spans rfl key
    refine Dialect.Spans.stands ?_ (((((Opens.chars rfl).append _).append _).append _).append _)
    exact .arguments 2 1 closed literal rfl

theorem jsonHasKey_stands {column : String} (shelters : t.Shelters column) :
    Compiles (t.dialect.Stands alone) (t.jsonHasKey column) := by
  have keeps := shelters.path
  rcases found : Text.fieldAndPath column with ⟨field, path⟩
  rw [found] at keeps
  have field_closed : t.dialect.Closed (t.dotted field) := dotted_spans field
  have literal (other : t.dialect ≠ .postgres) : t.dialect.Closed (jsonPath path) := jsonPath_spans (keeps other)
  simp only [jsonHasKey, found]
  apply Compiles.bind jsonKey_subset
  rintro ⟨parent, key⟩ within
  split
  · rename_i postgres
    have document := t.jsonDocument_closed (by rw [postgres]; rfl) field parent
    rw [postgres] at document ⊢
    exact .ok (postgresHasKey_stands document key)
  · rename_i mysql
    have mode : t.dialect.Spans alone 2 ", 'one', " 2 := by rw [mysql]; exact .scan rfl rfl
    refine .ok (Dialect.Spans.stands ?_ (((((Opens.chars rfl).append _).append _).append _).append _))
    have called : t.dialect.Spans alone 0 ("IFNULL(JSON_CONTAINS_PATH(" ++ t.dotted field ++ ", 'one', ") 2 :=
      ((Dialect.Spans.plain rfl).holding field_closed).before mode rfl
    exact (called.holding (literal (by rw [mysql]; decide))).beforePlain rfl
  · rename_i sqlite
    refine .ok (Dialect.Spans.stands ?_ (((((Opens.chars rfl).append _).append _).append _).append _))
    have called : t.dialect.Spans alone 0 ("JSON_TYPE(" ++ t.dotted field ++ ", ") 1 :=
      .argument 0 field_closed rfl
    exact (called.holding (literal (by rw [sqlite]; decide))).beforePlain rfl
  · rename_i sqlServer
    have quoted : t.dialect.Spans alone 0 (quoteText (Text.unbracket key)) 0 :=
      quoteText_spans (by rw [sqlServer]; rfl) _
    have opens : Opens (quoteText (Text.unbracket key)) := .chars rfl
    have word : t.dialect.Closed (t.dialect.quoteName "key") := quoteName_spans "key"
    have arguments : t.dialect.Closed (t.jsonArguments field parent) :=
      jsonArguments_spans fun step member => keeps (by rw [sqlServer]; decide) step (within member)
    refine .ok (Dialect.Spans.stands ?_ (((((opens.append _).append _).append _).append _).append _))
    have selected : t.dialect.Spans alone 0
        (quoteText (Text.unbracket key) ++ " IN (SELECT " ++ t.dialect.quoteName "key") 1 :=
      (quoted.beforePlain rfl).holding word
    exact ((selected.beforePlain (k := 2) rfl).holding arguments).beforePlain rfl

theorem jsonLength_spans (alone : Bool) {column : String} (shelters : t.Shelters column) :
    t.dialect.Spans alone 0 (t.jsonLength column) 0 ∧ Opens (t.jsonLength column) := by
  have keeps := shelters.path
  rcases found : Text.fieldAndPath column with ⟨field, path⟩
  rw [found] at keeps
  simp only [jsonLength, found]
  split
  · rename_i postgres
    have document := t.jsonDocument_closed (by rw [postgres]; rfl) field path
    exact ⟨.argument 1 document rfl, ((Opens.chars rfl).append _).append _⟩
  all_goals
    rename_i other
    have arguments : t.dialect.Closed (t.jsonArguments field path) :=
      jsonArguments_spans (keeps (by rw [other]; decide))
    refine ⟨?_, ((Opens.chars rfl).append _).append _⟩
  · exact .argument 0 arguments rfl
  · exact .argument 0 arguments rfl
  · exact .argument 1 arguments rfl

theorem fullText_stands {columns : List String} (shelters : ∀ column ∈ columns, t.Shelters column) (terms : String)
    (options : FullTextOptions) :
    Compiles (fun s => t.dialect.Stands alone s.text) (t.fullText columns terms options) := by
  have names : t.dialect.Closed (t.columns columns) := columns_spans shelters
  have value {alone} : t.dialect.Spans alone 0 "?" 0 := param_spans
  unfold fullText
  simp only
  split
  · have mode : Compiles t.dialect.Closed (t.mysqlSearchMode options) := by
      unfold mysqlSearchMode
      split
      · split <;> exact .ok (.plain rfl)
      · exact .ok (.plain rfl)
      all_goals exact Compiles.unsupported t _
    apply mode.map
    intro mode closed
    simp only [Sql.text_append, Sql.text_ofText, Sql.text_param]
    refine Dialect.Spans.stands ?_ (((((((Opens.chars rfl).append _).append _).append _).append _).append _).append _)
    have matched : t.dialect.Spans alone 0 ("MATCH (" ++ t.columns columns ++ ") AGAINST (" ++ "?") 1 :=
      (Dialect.Spans.argument (j := 1) 0 names rfl).holding value
    exact ((matched.beforePlain (k := 1) rfl).holding closed).beforePlain rfl
  · rename_i postgres
    have language {alone} : t.dialect.Spans alone 0 (quoteText (options.language.getD "english")) 0 :=
      quoteText_spans (by rw [postgres]; rfl) _
    have function : t.dialect.Spans alone 0 (postgresSearchFunction options.mode) 0 := by
      cases options.mode <;> exact .plain rfl
    have vectors : t.dialect.Closed (" || ".intercalate (columns.map fun c =>
        "TO_TSVECTOR(" ++ quoteText (options.language.getD "english") ++ ", " ++ t.column c ++ ")")) := by
      apply Dialect.Spans.intercalate rfl
      intro part member
      obtain ⟨name, inColumns, rfl⟩ := List.mem_map.mp member
      have column : t.dialect.Closed (t.column name) := column_spans (shelters name inColumns)
      exact .arguments 0 0 language column rfl
    refine .ok ?_
    simp only [Sql.text_append, Sql.text_ofText, Sql.text_param]
    generalize " || ".intercalate _ = document at vectors ⊢
    have matched : t.dialect.Spans alone 0 ("(" ++ document ++ ") @@ " ++ postgresSearchFunction options.mode) 0 :=
      ((Dialect.Spans.plain (j := 1) rfl).holding vectors).link function rfl
    have opens : Opens ("(" ++ document ++ ") @@ " ++ postgresSearchFunction options.mode) :=
      (((Opens.chars rfl).append _).append _).append _
    refine Dialect.Spans.stands ?_ (((((opens.append _).append _).append _).append _).append _)
    exact ((((matched.beforePlain (k := 1) rfl).holding language).beforePlain (k := 1) rfl).holding value).beforePlain
      rfl
  all_goals exact Compiles.unsupported t _

end

end Target

end SqlCompiler
