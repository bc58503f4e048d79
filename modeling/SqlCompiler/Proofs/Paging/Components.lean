import SqlCompiler.Proofs.Paging.Clauses
import SqlCompiler.Proofs.Retention.Nested

namespace SqlCompiler

/-- Where it writes anything, the text begins with one of the words. -/
def LedIn (words : List String) (s : String) : Prop := s = "" ∨ ∃ word ∈ words, LedBy word s

theorem LedIn.of_led {words : List String} {word s : String} (led : LedBy word s) (member : word ∈ words) :
    LedIn words s := .inr ⟨word, member, led⟩

def bodyWords : List String :=
  ["FROM", "USE", "FORCE", "IGNORE", "INDEXED", "WITH", "INNER", "LEFT", "RIGHT", "CROSS", "OUTER", "WHERE", "GROUP",
    "HAVING", "ORDER"]

theorem bodyWords_openers : ∀ word ∈ bodyWords, word ∈ openers ∧ word ∉ pagingWords ∧ word ≠ "SELECT" := by decide

theorem LedIn.silent {s : String} (led : LedIn bodyWords s) : Silent s := by
  rcases led with rfl | ⟨word, member, led⟩
  · decide
  · obtain ⟨opener, quiet, other⟩ := bodyWords_openers word member
    exact silent_of_lead (led.lead_eq opener) quiet other

theorem LedIn.select_quiet {s : String} (led : LedIn ["SELECT"] s) : Quiet s := by
  rcases led with rfl | ⟨word, member, led⟩
  · decide
  · obtain rfl := List.mem_singleton.mp member
    rw [Quiet, led.lead_eq (by decide)]
    decide

theorem LedBy.sql_append {word : String} {a : Sql} (led : LedBy word a.text) (b : Sql) : LedBy word (a ++ b).text := by
  rw [Sql.text_append]
  exact led.append _

theorem ledBy_ofText {word s : String} (led : LedBy word s) : LedBy word (Sql.ofText s).text := by
  rwa [Sql.text_ofText]

theorem LedBy.join {word : String} {first : Sql} (led : LedBy word first.text) (separator : String)
    (rest : List Sql) : LedBy word (Sql.join separator (first :: rest)).text := by
  cases rest with
  | nil => exact led
  | cons next rest => exact (led.sql_append _).sql_append _

theorem LedBy.concat {word : String} {first : Sql} (led : LedBy word first.text) (rest : List Sql) :
    LedBy word (Sql.concat (first :: rest)).text := by
  have written : (!first.isEmpty) = true := by
    obtain ⟨c, behind, chars, -⟩ := led
    have filled : first.text ≠ "" := fun none => by simp [none] at chars
    simpa [Sql.isEmpty] using filled
  have filtered : (first :: rest).filter (fun part => !part.isEmpty) = first :: rest.filter fun part => !part.isEmpty :=
    List.filter_cons_of_pos written
  rw [Sql.concat, filtered]
  exact led.join _ _

theorem Join.led {t : Target} {join : Join} {s : Sql} (compiled : join.sql t = .ok s) :
    ∃ word ∈ bodyWords, LedBy word s.text := by
  obtain ⟨kind, target, on⟩ := join
  obtain ⟨rows, -, compiled⟩ := ok_of_bind compiled
  have named : LedBy kind.sql (Sql.ofText kind.sql ++ Sql.ofText " JOIN ").text := ⟨' ', "JOIN ".toList, by simp, rfl⟩
  have lateral : LedBy kind.sql (Sql.ofText kind.sql ++ Sql.ofText " JOIN LATERAL ").text :=
    ⟨' ', "JOIN LATERAL ".toList, by simp, rfl⟩
  have known : kind.sql ∈ bodyWords := by cases kind <;> decide
  split at compiled
  next =>
    unfold Target.lateralJoin at compiled
    split at compiled
    · cases compiled
    · split at compiled
      · cases compiled
        exact ⟨"CROSS", by decide, (ledBy_ofText ⟨' ', "APPLY ".toList, rfl, rfl⟩).sql_append _⟩
      · cases compiled
        exact ⟨"CROSS", by decide, (ledBy_ofText ⟨' ', "APPLY ".toList, rfl, rfl⟩).sql_append _⟩
      · cases compiled
        exact ⟨"OUTER", by decide, (ledBy_ofText ⟨' ', "APPLY ".toList, rfl, rfl⟩).sql_append _⟩
      · cases compiled
      · cases compiled
        exact ⟨_, known, (lateral.sql_append _).sql_append _⟩
  next =>
    unfold Target.plainJoin at compiled
    split at compiled
    · cases compiled
      exact ⟨_, known, named.sql_append _⟩
    · obtain ⟨conditions, -, rfl⟩ := ok_of_map compiled
      exact ⟨_, known, ((named.sql_append _).sql_append _).sql_append _⟩

def Order.fragment? : Order → Option String
  | .raw sql _ => some sql
  | _ => none

namespace Target

variable {t : Target} {q : Query}

theorem joins_led {joins : List Sql} (compiled : joinSqls t q.joins = .ok joins) :
    LedIn bodyWords (Sql.join " " joins).text := by
  have all := joinSqls_ok compiled
  cases joins with
  | nil => exact .inl rfl
  | cons first rest =>
    obtain ⟨join, -, written⟩ := exists_of_forall₂ all.flip (List.mem_cons_self (a := first) (l := rest))
    obtain ⟨word, known, led⟩ := Join.led written
    exact .of_led (led.join " " rest) known

theorem sourceClause_led {p : Parts} {s : Sql} (compiled : t.sourceClause q p = .ok s) :
    LedIn bodyWords s.text := by
  have word : LedBy "FROM" (Sql.ofText "FROM ").text := ledBy_ofText ⟨' ', [], rfl, rfl⟩
  have known : "FROM" ∈ bodyWords := by decide
  unfold sourceClause at compiled
  split at compiled
  next =>
    cases compiled
    exact .inl rfl
  next name _ =>
    cases compiled
    unfold sourceTable
    split
    next lock _ _ => exact .of_led ((word.sql_append (t.table name)).concat [Sql.ofText (tableLock lock)]) known
    next => exact .of_led (word.sql_append _) known
  next =>
    cases compiled
    exact .of_led (word.sql_append _) known
  next =>
    obtain ⟨rows, -, rfl⟩ := ok_of_map compiled
    exact .of_led (word.sql_append _) known

theorem mysqlWord_led (kind : HintKind) : LedBy (HintKind.mysqlWord kind) (HintKind.mysqlWord kind ++ " INDEX (") :=
  ⟨' ', "INDEX (".toList, by simp, rfl⟩

theorem indexHint_led (hint : IndexHint) : LedIn bodyWords (t.indexHint hint) := by
  have indexed : LedBy "INDEXED" "INDEXED BY " := ⟨' ', "BY ".toList, rfl, rfl⟩
  have within : LedBy "WITH" "WITH (INDEX(" := ⟨' ', "(INDEX(".toList, rfl, rfl⟩
  unfold indexHint
  split
  next =>
    have known : HintKind.mysqlWord hint.kind ∈ bodyWords := by cases hint.kind <;> decide
    exact .of_led (((mysqlWord_led hint.kind).append _).append _) known
  next => exact .of_led (indexed.append _) (by decide)
  next => exact .of_led ((within.append _).append _) (by decide)
  next => exact .inl rfl

theorem clauseAfter_led {keyword : String} (known : keyword ∈ bodyWords) {clause : Clause} {sql : Except Error Sql}
    {s : Sql} (compiled : clauseAfter keyword clause sql = .ok s) : LedIn bodyWords s.text := by
  unfold clauseAfter at compiled
  split at compiled
  · cases compiled
    exact .inl rfl
  · obtain ⟨tests, -, rfl⟩ := ok_of_map compiled
    have word : LedBy keyword (Sql.ofText keyword ++ Sql.ofText " ").text := ⟨' ', [], by simp, rfl⟩
    exact .of_led (word.sql_append _) known

theorem groupBy_led (groups : List Grouping) : LedIn bodyWords (t.groupBy groups).text := by
  unfold groupBy
  split
  · exact .inl rfl
  · have word : LedBy "GROUP" (Sql.ofText "GROUP BY ").text := ledBy_ofText ⟨' ', "BY ".toList, rfl, rfl⟩
    exact .of_led (word.sql_append _) (by decide)

theorem order_filled {order : Order} (nothing : (t.order order).text = "") : order.fragment? = some "" := by
  cases order with
  | column name direction =>
    have chars := congrArg String.toList nothing
    simp [Target.order] at chars
  | raw sql values =>
    rw [Target.order, Sql.text_raw] at nothing
    rw [Order.fragment?, nothing]
  | random seed =>
    rw [Target.order, Sql.text_ofText] at nothing
    have chars := congrArg String.toList nothing
    unfold randomOrder at chars
    split at chars
    · cases chars
    · cases chars
    · split at chars <;> simp at chars
    · cases chars

theorem orderBy_isOrder {orders : List Order} (some : orders ≠ []) :
    IsOrder (orders.filterMap Order.fragment?) (t.orderBy orders).text := by
  refine ⟨orders.map fun order => (t.order order).text, by simpa using some, ?_, fun blank => ?_⟩
  · rw [orderBy, if_neg (by simpa using some), Sql.text_append, Sql.text_ofText, Sql.text_join, List.map_map]
    rfl
  · obtain ⟨order, member, nothing⟩ := List.mem_map.mp blank
    exact List.mem_filterMap.mpr ⟨order, member, order_filled nothing⟩

theorem anyOrder_isOrder (fragments : List String) : IsOrder fragments anyOrder :=
  ⟨["(SELECT 0)"], by simp, rfl, fun blank => absurd blank (by decide)⟩

theorem orderBy_led (orders : List Order) : LedIn bodyWords (t.orderBy orders).text := by
  unfold orderBy
  split
  · exact .inl rfl
  · have word : LedBy "ORDER" (Sql.ofText "ORDER BY ").text := ledBy_ofText ⟨' ', "BY ".toList, rfl, rfl⟩
    exact .of_led (word.sql_append _) (by decide)

theorem queryOrder_led (t : Target) (q : Query) : LedIn bodyWords (t.queryOrder q).text := by
  unfold queryOrder
  split
  · have word : LedBy "ORDER" (Sql.ofText anyOrder).text := ledBy_ofText ⟨' ', "BY (SELECT 0)".toList, rfl, rfl⟩
    exact .of_led word (by decide)
  · exact orderBy_led q.orders

theorem queryOrder_isOrder (server : t.dialect = .sqlServer) (skips : q.offset.isSome) :
    IsOrder (q.orders.filterMap Order.fragment?) (t.queryOrder q).text := by
  unfold queryOrder
  split
  next => exact Sql.text_ofText anyOrder ▸ anyOrder_isOrder _
  next ordered =>
    refine orderBy_isOrder fun none => ordered ⟨server, ?_, skips⟩
    rw [none, List.isEmpty_nil]

theorem aggregate_led (t : Target) (q : Query) : LedIn ["SELECT"] (t.aggregate q).text := by
  unfold aggregate
  split
  · exact .inl rfl
  · have word : LedBy "SELECT" (Sql.ofText "SELECT ").text := ledBy_ofText ⟨' ', [], rfl, rfl⟩
    exact .of_led (((((word.sql_append _).sql_append _).sql_append _).sql_append _).sql_append _) (by decide)

theorem selectKeyword_led (t : Target) (q : Query) (list : String) :
    LedBy "SELECT" (t.selectKeyword q ++ (" " ++ list)) := by
  have word : LedBy "SELECT" "SELECT " := ⟨' ', [], rfl, rfl⟩
  have distinct : LedBy "SELECT" "SELECT DISTINCT" := ⟨' ', "DISTINCT".toList, rfl, rfl⟩
  have distinctOn : LedBy "SELECT" "SELECT DISTINCT ON (" := ⟨' ', "DISTINCT ON (".toList, rfl, rfl⟩
  unfold selectKeyword
  split
  · exact ((distinctOn.append _).append _).append _
  · split
    · split
      · exact ⟨' ', _, by simp; rfl, rfl⟩
      · exact ⟨' ', list.toList, by simp, rfl⟩
    · exact (distinct.append _).append _
  · exact ⟨' ', list.toList, by simp, rfl⟩
  · exact distinct.append _
  · exact distinct.append _

theorem selectList_led {p : Parts} {s : Sql} (compiled : t.selectList q p = .ok s) (rest : String) :
    s.text = "" ∧ q.aggregate.isSome ∨ LedBy "SELECT" (s.text ++ rest) := by
  unfold selectList at compiled
  split at compiled
  next aggregates =>
    cases compiled
    exact .inl ⟨rfl, aggregates⟩
  next =>
    obtain ⟨items, -, rfl⟩ := ok_of_map compiled
    simp only [Sql.text_append, Sql.text_ofText, String.append_assoc]
    exact .inr (t.selectKeyword_led q _)

end Target

def Marked (s : String) : Prop := ∃ c rest, s.toList = c :: rest ∧ Text.isBlank c = false ∧ isWordChar c = false

namespace Marked

variable {s : String}

theorem append (marked : Marked s) (rest : String) : Marked (s ++ rest) := by
  obtain ⟨c, behind, chars, facts⟩ := marked
  exact ⟨c, behind ++ rest.toList, by simp [chars], facts⟩

theorem untopped (marked : Marked s) : Untopped s.toList := by
  obtain ⟨c, rest, chars, blank, word⟩ := marked
  exact chars ▸ untopped_apart blank word rest

theorem silent (marked : Marked s) : Silent s := by
  obtain ⟨c, rest, chars, blank, word⟩ := marked
  have unled : lead s = "" := by
    rw [lead, chars, leadingWord_apart blank word]
  exact silent_of_lead unled (by decide) (by decide)

theorem intercalate (marked : Marked s) (separator : String) (rest : List String) :
    Marked (separator.intercalate (s :: rest)) := by
  cases rest with
  | nil => simpa using marked
  | cons next rest =>
    rw [String.intercalate_cons_cons, String.append_assoc]
    exact marked.append _

end Marked

theorem quoteName_marked (d : Dialect) (name : String) : Marked (d.quoteName name) := by
  unfold Dialect.quoteName
  split
  next star => exact ⟨'*', [], by rw [star]; rfl, by decide, by decide⟩
  next => exact ⟨d.openQuote, _, by rw [String.toList_ofList]; rfl, by cases d <;> decide, by cases d <;> decide⟩

namespace Target

variable {t : Target} {q : Query}

theorem table_marked (name : String) : Marked (t.table name) := by
  have plain (name : String) : Marked (t.plainTable name) := by
    unfold plainTable
    split
    · exact ((quoteName_marked _ _).append _).append _
    · exact quoteName_marked _ _
  unfold table
  split
  · exact ((plain _).append _).append _
  · exact plain _

theorem dotted_marked (name : String) : Marked (t.dotted name) := by
  unfold dotted
  split
  · exact ((table_marked _).append _).append _
  · cases parts : Text.parts '.' name with
    | nil => exact absurd (List.map_eq_nil_iff.mp parts) (Text.split_ne_nil _ _)
    | cons first rest => exact (quoteName_marked t.dialect first).intercalate "." _

theorem jsonValue_untopped (rest : String) : Untopped ("JSON_VALUE(" ++ rest).toList := by
  have chars : ("JSON_VALUE(" ++ rest).toList = "JSON_VALUE".toList ++ '(' :: rest.toList := by
    rw [String.toList_append]
    rfl
  have read := @leadingWord_capitals "JSON_VALUE".toList (by decide) '(' (by decide) rest.toList
  rw [chars]
  exact untopped_of_word read (by decide) (by decide)

theorem column_untopped (server : t.dialect = .sqlServer) (name : String) : Untopped (t.column name).toList := by
  have plain (name rest : String) : Untopped (t.plainColumn name ++ rest).toList := by
    unfold plainColumn
    split
    · simp only [jsonColumn, server, String.append_assoc]
      exact jsonValue_untopped _
    · exact ((dotted_marked name).append rest).untopped
  unfold column
  split
  · rw [String.append_assoc]
    exact plain _ _
  · have whole := plain name ""
    rwa [String.append_empty] at whole

end Target

def Selection.fragment? : Selection → Option String
  | .raw sql _ => some sql
  | _ => none

theorem Selection.untopped {t : Target} (server : t.dialect = .sqlServer) {item : Selection}
    (nothing : ∀ sql, item.fragment? = some sql → PagesNothing sql.toList) {s : Sql} (compiled : item.sql t = .ok s) :
    Untopped s.text.toList := by
  cases item with
  | column name =>
    cases compiled
    rw [Sql.text_ofText]
    exact Target.column_untopped server name
  | raw sql values =>
    cases compiled
    rw [Sql.text_raw]
    exact (nothing sql rfl).untopped
  | derived q label =>
    obtain ⟨rows, -, rfl⟩ := ok_of_map compiled
    have opened : Marked (Sql.ofText "(").text := ⟨'(', [], by rw [Sql.text_ofText]; rfl, by decide, by decide⟩
    simp only [Sql.text_append]
    exact (((opened.append _).append _).append _).untopped

def Listed (tail : String) : Prop := tail = "" ∨ ∃ rest, tail = "," ++ rest

theorem Untopped.listed {list tail : String} (untopped : Untopped list.toList) (listed : Listed tail) :
    Untopped (list ++ tail).toList := by
  rcases listed with rfl | ⟨rest, rfl⟩
  · rwa [String.append_empty]
  · have chars : (list ++ ("," ++ rest)).toList = list.toList ++ ',' :: rest.toList := by
      rw [String.toList_append, String.toList_append]
      rfl
    rw [chars]
    exact untopped.append_mark (by decide) (by decide) _

theorem Listed.append {tail : String} (listed : Listed tail) {rest : String} (goesOn : Listed rest) :
    Listed (tail ++ rest) := by
  rcases listed with rfl | ⟨first, rfl⟩
  · rwa [String.empty_append]
  · exact .inr ⟨first ++ rest, String.append_assoc⟩

theorem Listed.silent {tail : String} (listed : Listed tail) : Silent tail := by
  rcases listed with rfl | ⟨rest, rfl⟩
  · decide
  · exact Marked.silent ⟨',', rest.toList, String.toList_append, by decide, by decide⟩

namespace Target

variable {t : Target} {q : Query}

theorem untopped_join {items : List Sql} (each : ∀ item ∈ items, Untopped item.text.toList) {tail : String}
    (listed : Listed tail) :
    Untopped ((if items.isEmpty then Sql.ofText "*" else Sql.join ", " items).text ++ tail).toList := by
  cases items with
  | nil =>
    have star : Marked (Sql.ofText "*").text := ⟨'*', [], by rw [Sql.text_ofText]; rfl, by decide, by decide⟩
    exact star.untopped.listed listed
  | cons first rest =>
    have untopped := each first (by simp)
    cases rest with
    | nil => exact untopped.listed listed
    | cons next rest =>
      have more (s : String) : Listed (", " ++ s) := .inr ⟨" " ++ s, by rw [← String.append_assoc]; rfl⟩
      have whole := untopped.listed (more ((Sql.join ", " (next :: rest)).text ++ tail))
      simpa [Sql.join, String.append_assoc] using whole

theorem selectKeyword_chars (server : t.dialect = .sqlServer) (list : String) :
    t.selectKeyword q ++ (" " ++ list) = String.ofList ("SELECT".toList ++ ' ' ::
      ((if q.distinct = .off then [] else "DISTINCT".toList ++ [' ']) ++
        ((if q.offset = none then q.limit.elim [] fun n => "TOP".toList ++ ' ' :: (Nat.toDigits 10 n.toNat ++ [' '])
          else []) ++ list.toList))) := by
  rw [← String.toList_inj, String.toList_ofList]
  by_cases off : q.distinct = .off
  · cases limit : q.limit <;> cases offset : q.offset <;> simp [selectKeyword, server, off, limit, offset]
  · cases limit : q.limit <;> cases offset : q.offset <;> simp [selectKeyword, server, off, limit, offset]

theorem selectList_top (server : t.dialect = .sqlServer) (plain : q.aggregate = none)
    (nothing : ∀ sql ∈ q.columns.filterMap Selection.fragment?, PagesNothing sql.toList) {list : Sql}
    (compiled : t.selectList q (q.parts t) = .ok list) {tail : String} (listed : Listed tail) :
    topOf? (list.text ++ tail) = if q.offset = none then q.limit.map fun n => toString n.toNat else none := by
  rw [selectList, if_neg (by simp [plain])] at compiled
  obtain ⟨items, found, rfl⟩ := ok_of_map compiled
  have each : ∀ item ∈ items, Untopped item.text.toList := by
    intro item member
    obtain ⟨selection, listed, written⟩ := exists_of_forall₂ (selectionSqls_ok found).flip member
    exact selection.untopped server (fun sql raw => nothing sql (List.mem_filterMap.mpr ⟨selection, listed, raw⟩))
      written
  have untopped := untopped_join each listed
  generalize (if items.isEmpty then Sql.ofText "*" else Sql.join ", " items) = list at untopped
  simp only [Sql.text_append, Sql.text_ofText, String.append_assoc]
  rw [selectKeyword_chars server, topOf?_select]
  generalize (list.text ++ tail).toList = rest at untopped
  have none := untopped.listTop?_eq
  have top (n : UInt64) := listTop?_top n.toNat rest
  by_cases unskipped : q.offset = Option.none
  · rw [if_pos unskipped, if_pos unskipped]
    cases q.limit with
    | none =>
      split
      · exact none.1
      · simpa using none.2
    | some n =>
      split
      · simpa using (top n).1
      · simpa using (top n).2
  · rw [if_neg unskipped, if_neg unskipped]
    split
    · exact none.1
    · simpa using none.2

theorem aggregate_untopped (t : Target) (q : Query) : topOf? (t.aggregate q).text = none := by
  unfold aggregate
  split
  · rfl
  next a _ =>
    have function : ∃ word, a.function.sql.toList = word ∧ isCapitals word ∧ word ≠ "TOP".toList ∧
        word ≠ "DISTINCT".toList := by
      cases a.function <;> exact ⟨_, rfl, by decide, by decide, by decide⟩
    obtain ⟨word, written, capitals, top, distinct⟩ := function
    have read (rest : List Char) := leadingWord_capitals capitals (c := '(') (by decide) rest
    have untopped (rest : List Char) := untopped_of_word (read rest) top distinct
    have chars (s rest : String) : "SELECT " ++ (s ++ ("(" ++ rest)) =
        String.ofList ("SELECT".toList ++ ' ' :: (s.toList ++ '(' :: rest.toList)) := by
      rw [← String.toList_inj]
      simp
    simp only [Sql.text_append, Sql.text_ofText, String.append_assoc]
    rw [chars, written, topOf?_select]
    exact (untopped _).listTop?_eq.1

end Target

def Components.clauses (c : Components) : List String := c.written.map fun part => part.2.text

theorem Components.text_eq (c : Components) : c.sql.text = " ".intercalate c.clauses := by
  rw [sql, Sql.text_concat, clauses, written, List.map_map, List.filter_map]
  rfl

end SqlCompiler
