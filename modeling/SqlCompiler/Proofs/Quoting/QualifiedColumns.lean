import SqlCompiler.Proofs.Quoting.DottedNames
import SqlCompiler.Proofs.Retention.Parts
import SqlCompiler.Write.Change

namespace SqlCompiler

namespace Text

theorem afterAs?_eq_some {cs label : List Char} : afterAs? cs = some label ↔
    ∃ a s, (a.toLower = 'a' ∧ s.toLower = 's') ∧ cs = ' ' :: a :: s :: ' ' :: label := by
  unfold afterAs?
  split
  · rename_i a s rest
    constructor
    · intro found
      split at found
      · rename_i word
        cases found
        exact ⟨a, s, word, rfl⟩
      · cases found
    · rintro ⟨a', s', word, shape⟩
      cases shape
      exact if_pos word
  · rename_i other
    constructor
    · exact nofun
    · rintro ⟨a, s, -, shape⟩
      exact (other a s label shape).elim

theorem afterAs?_of_dot {cs ds label : List Char} (found : afterAs? (cs ++ '.' :: ds) = some label) :
    ∃ rest, afterAs? cs = some rest := by
  obtain ⟨a, s, word, shape⟩ := afterAs?_eq_some.mp found
  have dot : ∀ c : Char, c.toLower = 'a' ∨ c.toLower = 's' → '.' ≠ c := by
    rintro c letter rfl
    revert letter
    decide
  match cs with
  | [] => cases shape
  | [_] => exact absurd (List.cons.inj (List.cons.inj shape).2).1 (dot a (.inl word.1))
  | [_, _] => exact absurd (List.cons.inj (List.cons.inj (List.cons.inj shape).2).2).1 (dot s (.inr word.2))
  | [_, _, _] => cases shape
  | _ :: _ :: _ :: _ :: rest =>
    cases shape
    exact ⟨rest, afterAs?_eq_some.mpr ⟨a, s, word, rfl⟩⟩

theorem cutAlias_cons_eq_none {c : Char} {cs : List Char} :
    cutAlias (c :: cs) = none ↔ afterAs? (c :: cs) = none ∧ cutAlias cs = none := by
  rw [cutAlias]
  cases afterAs? (c :: cs) <;> simp

theorem cutAlias_dot {cs ds : List Char} (front : cutAlias cs = none) (back : cutAlias ds = none) :
    cutAlias (cs ++ '.' :: ds) = none := by
  induction cs with
  | nil => exact cutAlias_cons_eq_none.mpr ⟨rfl, back⟩
  | cons c cs ih =>
    obtain ⟨here, later⟩ := cutAlias_cons_eq_none.mp front
    refine cutAlias_cons_eq_none.mpr ⟨?_, ih later⟩
    cases found : afterAs? (c :: (cs ++ '.' :: ds)) with
    | none => rfl
    | some label =>
      rw [← List.cons_append] at found
      obtain ⟨rest, across⟩ := afterAs?_of_dot found
      rw [here] at across
      cases across

theorem arrow_dot {cs ds : List Char} (front : occursIn ['-', '>'] cs = false)
    (back : occursIn ['-', '>'] ds = false) : occursIn ['-', '>'] (cs ++ '.' :: ds) = false := by
  induction cs with
  | nil => simpa [occursIn, List.isPrefixOf] using back
  | cons c cs ih =>
    simp only [occursIn, Bool.or_eq_false_iff] at front
    rw [List.cons_append, occursIn, ih front.2, Bool.or_false]
    cases cs with
    | nil => simp [List.isPrefixOf]
    | cons d cs => simpa [List.isPrefixOf] using front.1

theorem split_of_not_mem {sep : Char} {cs : List Char} (absent : sep ∉ cs) : split sep cs = [cs] := by
  induction cs with
  | nil => rfl
  | cons c cs ih =>
    simp only [List.mem_cons, not_or] at absent
    simp [split, ih absent.2, Ne.symm absent.1]

theorem split_append {sep : Char} {cs : List Char} (absent : sep ∉ cs) (ds : List Char) :
    split sep (cs ++ sep :: ds) = cs :: split sep ds := by
  induction cs with
  | nil => simp [split]
  | cons c cs ih =>
    simp only [List.mem_cons, not_or] at absent
    simp [split, ih absent.2, Ne.symm absent.1]

theorem splitLast_append {sep : Char} (cs : List Char) {ds : List Char} (absent : sep ∉ ds) :
    splitLast sep (cs ++ sep :: ds) = some (cs, ds) := by
  induction cs with
  | nil => simp [splitLast, splitLast_eq_none absent]
  | cons c cs ih => simp [splitLast, ih]

/-- The text names something by itself: it gives no alias and selects nothing from a document. -/
structure IsName (s : String) : Prop where
  noAlias : splitAlias s = none
  noArrow : hasArrow s = false

theorem IsName.dot {a b : String} (front : IsName a) (back : IsName b) : IsName (a ++ "." ++ b) := by
  have whole : (a ++ "." ++ b).toList = a.toList ++ '.' :: b.toList := by simp
  refine ⟨?_, ?_⟩
  · have uncut := cutAlias_dot (Option.map_eq_none_iff.mp front.noAlias) (Option.map_eq_none_iff.mp back.noAlias)
    rw [splitAlias, whole, uncut, Option.map_none]
  · have absent := arrow_dot front.noArrow back.noArrow
    rw [hasArrow, contains, whole]
    exact absent

theorem parts_of_not_mem {sep : Char} {s : String} (absent : sep ∉ s.toList) : parts sep s = [s] := by
  simp [parts, split_of_not_mem absent]

theorem parts_dot {a : String} (absent : '.' ∉ a.toList) (b : String) :
    parts '.' (a ++ "." ++ b) = a :: parts '.' b := by
  have whole : (a ++ "." ++ b).toList = a.toList ++ '.' :: b.toList := by simp
  simp [parts, whole, split_append absent]

theorem plain_or_two_parts {s : String} (dots : s.toList.count '.' ≤ 1) :
    '.' ∉ s.toList ∨ ∃ a b : String, s = a ++ "." ++ b ∧ '.' ∉ a.toList ∧ '.' ∉ b.toList := by
  by_cases member : '.' ∈ s.toList
  · obtain ⟨front, back, shape⟩ := List.append_of_mem member
    rw [shape, List.count_append, List.count_cons_self] at dots
    have before : front.count '.' = 0 := by omega
    have behind : back.count '.' = 0 := by omega
    refine .inr ⟨String.ofList front, String.ofList back, String.toList_inj.mp (by simpa using shape), ?_, ?_⟩
    · simpa using List.count_eq_zero.mp before
    · simpa using List.count_eq_zero.mp behind
  · exact .inl member

end Text

namespace Target

variable {t : Target}

theorem column_of_isName {name : String} (plain : Text.IsName name) : t.column name = t.dotted name := by
  simp [column, plainColumn, plain.noAlias, plain.noArrow]

theorem column_of_table {table column : String} (name : Text.IsName table) (key : Text.IsName column)
    (whole : '.' ∉ table.toList) (single : '.' ∉ column.toList) :
    t.column (table ++ "." ++ column) = t.table table ++ "." ++ t.dialect.quoteName column := by
  rw [column_of_isName (name.dot key), dotted, Text.parts_dot whole, Text.parts_of_not_mem single]

theorem table_of_schema {schema name : String} (plain : Text.IsName (schema ++ "." ++ name))
    (single : '.' ∉ name.toList) : t.table (schema ++ "." ++ name) =
      t.dialect.quoteName schema ++ "." ++ t.dialect.quoteName (t.tablePrefix ++ name) := by
  have whole : (schema ++ "." ++ name).toList = schema.toList ++ '.' :: name.toList := by simp
  rw [table, plain.noAlias]
  simp only [plainTable, whole, Text.splitLast_append _ single, String.ofList_toList]

/-- A column behind a table of a schema names the table without its prefix. -/
theorem column_of_schema {schema name column : String} (plain : Text.IsName (schema ++ "." ++ name))
    (key : Text.IsName column) (first : '.' ∉ schema.toList) (second : '.' ∉ name.toList)
    (single : '.' ∉ column.toList) : t.column (schema ++ "." ++ name ++ "." ++ column) =
      t.dialect.quoteName schema ++ "." ++ t.dialect.quoteName name ++ "." ++ t.dialect.quoteName column := by
  have parts : Text.parts '.' (schema ++ "." ++ name ++ "." ++ column) = [schema, name, column] := by
    have cut : schema ++ "." ++ name ++ "." ++ column = schema ++ "." ++ (name ++ "." ++ column) := by
      simp only [String.append_assoc]
    rw [cut, Text.parts_dot first, Text.parts_dot second, Text.parts_of_not_mem single]
  rw [column_of_isName (plain.dot key), dotted, parts]
  simp [String.append_assoc]

theorem qualified_eq_iff {table column : String} (name : Text.IsName table) (dots : table.toList.count '.' ≤ 1)
    (key : Text.IsName column) (single : '.' ∉ column.toList) :
    t.column (table ++ "." ++ column) = t.table table ++ "." ++ t.dialect.quoteName column ↔
      '.' ∉ table.toList ∨ t.tablePrefix = "" := by
  rcases Text.plain_or_two_parts dots with whole | ⟨schema, last, rfl, first, second⟩
  · exact iff_of_true (column_of_table name key whole single) (.inl whole)
  · have dotted : '.' ∈ (schema ++ "." ++ last).toList := by simp
    rw [column_of_schema name key first second single, table_of_schema name second]
    constructor
    · intro same
      have behind : t.dialect.quoteName last ++ ("." ++ t.dialect.quoteName column) =
          t.dialect.quoteName (t.tablePrefix ++ last) ++ ("." ++ t.dialect.quoteName column) := by
        simpa only [String.append_assoc, String.append_right_inj] using same
      -- a dot follows the quote that closes either name, so both names end there
      have alone : ("." ++ t.dialect.quoteName column).toList.head? ≠ some t.dialect.closeQuote := by
        cases t.dialect <;> simp [Dialect.closeQuote]
      have named := (Dialect.quoteName_append_inj behind alone alone).1
      have unprefixed : t.tablePrefix.toList = [] := by simpa using congrArg String.toList named
      exact .inr (String.toList_eq_nil_iff.mp unprefixed)
    · rintro (whole | unprefixed)
      · exact absurd dotted whole
      · rw [unprefixed, String.empty_append]

section

variable {q : Query} {p : Parts} {name : String}

theorem sourceTable_standsIn (t : Target) (q : Query) (name : String) :
    StandsIn ("FROM " ++ t.table name) (t.sourceTable q name).text := by
  have text : ("FROM " ++ t.table name : Sql).text = "FROM " ++ t.table name := by simp
  rw [← text]
  unfold sourceTable
  split
  · exact Sql.concat_standsIn (by simp)
  · exact .refl _

theorem components_from (compiled : t.components q p = .ok c) (table : q.source = some (.table name)) :
    StandsIn ("FROM " ++ t.table name) c.source.text := by
  obtain ⟨columns, -, compiled⟩ := ok_of_bind compiled
  obtain ⟨source, clause, compiled⟩ := ok_of_bind compiled
  obtain ⟨joins, -, compiled⟩ := ok_of_bind compiled
  obtain ⟨wheres, -, compiled⟩ := ok_of_bind compiled
  obtain ⟨havings, -, rfl⟩ := ok_of_map compiled
  simp only [sourceClause, table] at clause
  cases clause
  exact sourceTable_standsIn t q name

theorem rows_from {s : Sql} (compiled : t.rows q p = .ok s) (table : q.source = some (.table name)) :
    StandsIn ("FROM " ++ t.table name) s.text := by
  have within {c : Components} (found : StandsIn ("FROM " ++ t.table name) c.source.text)
      (written : ∀ part ∈ c.unordered, StandsIn part.text s.text) : StandsIn ("FROM " ++ t.table name) s.text :=
    found.trans (written c.source (by simp [Components.unordered]))
  unfold rows at compiled
  split at compiled
  · unfold limitedGroups at compiled
    split at compiled
    · cases compiled
    · split at compiled
      · obtain ⟨c, found, written, -⟩ := numberedGroups_standIn compiled
        exact within (components_from found table) written
      · obtain ⟨c, found, written, -⟩ := countedGroups_standIn compiled
        exact within (components_from found table) written
  · obtain ⟨c, found, compiled⟩ := ok_of_bind compiled
    have source := components_from found table
    split at compiled
    · cases compiled
      exact within source fun part => unordered_standIn
    · obtain ⟨members, -, rfl⟩ := ok_of_map compiled
      rw [Sql.append_assoc]
      have inMember := (source.trans (unordered_standIn (by simp [Components.unordered]))).trans
        (unionMember_standsIn (t := t) c.sql)
      exact inMember.trans (Sql.standsIn_left _ (Sql.breaks_ofText (.inl rfl) _))

end

end Target

namespace Query

variable {t : Target} {q : Query}

theorem source_of_targetTable {table : String} (target : q.targetTable = .ok table) :
    q.source = some (.table table) := by
  unfold targetTable at target
  split at target
  · rename_i name found
    cases target
    obtain ⟨source, some, named⟩ := Option.bind_eq_some_iff.mp found
    rw [some]
    cases source <;> cases named
    rfl
  · cases target

theorem selectionSqls_column {name : String} {items : List Sql}
    (compiled : selectionSqls t [.column name] = .ok items) : items = [Sql.ofText (t.column name)] := by
  cases compiled
  rfl

theorem keyTest_reads {table key : String} (name : Text.IsName table) (target : q.targetTable = .ok table) {test : Sql}
    (compiled : q.keyTest t table key = .ok test) :
    StandsIn (t.column (table ++ "." ++ key)) test.text ∧ StandsIn ("FROM " ++ t.table table) test.text := by
  obtain ⟨rows, found, rfl⟩ := ok_of_map compiled
  have own : aliasOf table = table := by rw [aliasOf, name.noAlias]
  rw [sql_eq_assemble, own] at found
  obtain ⟨aggregate, inner, listed, found, inRows⟩ := Target.rows_of_assemble found
  have inTest {part : String} (stands : StandsIn part inner.text) : StandsIn part
      (t.dialect.quoteName key ++ " IN (" ++ rows ++ ")" : Sql).text :=
    (stands.trans inRows).trans (Sql.standsIn_between _ rows (.inr (.inl rfl)))
  -- the query for the keys has no aggregate, so it lists its columns: the key alone
  cases listed (.inl rfl)
  obtain ⟨items, columns, order⟩ := (Target.rows_standIn found).columns rfl
  cases selectionSqls_column columns
  refine ⟨inTest (order.standsIn (by simp)), inTest (Target.rows_from found (source_of_targetTable target))⟩

/-- A column behind its table names the table that is read exactly if the table has no schema or there is no prefix. The
key of a row is such a column. -/
theorem qualified_columns (t : Target) {table column : String} (name : Text.IsName table)
    (dots : table.toList.count '.' ≤ 1) (key : Text.IsName column) (single : '.' ∉ column.toList) :
    (t.column (table ++ "." ++ column) = t.table table ++ "." ++ t.dialect.quoteName column ↔
      '.' ∉ table.toList ∨ t.tablePrefix = "") ∧
    ∀ (q : Query) (test : Sql), q.targetTable = .ok table → q.keyTest t table column = .ok test →
      StandsIn (t.column (table ++ "." ++ column)) test.text ∧ StandsIn ("FROM " ++ t.table table) test.text :=
  ⟨Target.qualified_eq_iff name dots key single, fun _ _ target compiled => keyTest_reads name target compiled⟩

def prefixed : Target := { dialect := .postgres, tablePrefix := "app_" }

def firstOf (table : String) : Query where
  source := some (.table table)
  limit := some 1

theorem events_key_qualified :
    prefixed.column "events.ctid" = prefixed.table "events" ++ "." ++ prefixed.dialect.quoteName "ctid" ∧
      ∃ test, (firstOf "events").keyTest prefixed "events" "ctid" = .ok test ∧
        StandsIn "\"app_events\".\"ctid\"" test.text ∧ StandsIn "FROM \"app_events\"" test.text := by
  obtain ⟨test, compiled⟩ : ∃ test, (firstOf "events").keyTest prefixed "events" "ctid" = .ok test := ⟨_, rfl⟩
  have events : Text.IsName "events" := ⟨rfl, rfl⟩
  have ctid : Text.IsName "ctid" := ⟨rfl, rfl⟩
  obtain ⟨same, reads⟩ := qualified_columns prefixed events (by decide) ctid (by decide)
  exact ⟨same.mpr (.inl (by decide)), test, compiled, reads _ test rfl compiled⟩

/-- The subquery reads the prefixed table of a schema and selects the key of another one. -/
theorem auditEvents_key_misnamed :
    prefixed.column "audit.events.ctid" ≠
        prefixed.table "audit.events" ++ "." ++ prefixed.dialect.quoteName "ctid" ∧
      ((firstOf "audit.events").keyTest prefixed "audit.events" "ctid").map Sql.text =
        .ok "\"ctid\" IN (SELECT \"audit\".\"events\".\"ctid\" FROM \"audit\".\"app_events\" LIMIT 1)" :=
  ⟨by decide, rfl⟩

end Query

end SqlCompiler
