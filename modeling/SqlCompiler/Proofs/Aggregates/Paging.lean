import SqlCompiler.Proofs.Aggregates.DerivedRows
import SqlCompiler.Session.Query

namespace SqlCompiler

namespace Target

variable {t : Target} {q : Query}

/-- The SELECT that computes an aggregate of derived rows. -/
def overRows (t : Target) (q : Query) (rows : Sql) : Components where
  aggregate := t.aggregate q
  columns := .empty
  source := "FROM (" ++ rows ++ ") AS " ++ t.table "temp_table"
  indexHint := .empty
  joins := .empty
  wheres := .empty
  groups := .empty
  havings := .empty
  orders := .empty
  paging := []
  lock := .empty

theorem overRows_text (aggregates : q.aggregate.isSome) (rows : Sql) : (t.overRows q rows).sql.text =
    (t.aggregate q ++ " FROM (" ++ rows ++ ") AS " ++ t.table "temp_table" : Sql).text := by
  obtain ⟨a, some⟩ := Option.isSome_iff_exists.mp aggregates
  have words : (t.aggregate q).isEmpty = false := by simp [aggregate, some, Sql.isEmpty]
  have source : (t.overRows q rows).source.isEmpty = false := by simp [overRows, Sql.isEmpty]
  have nothing : Sql.empty.isEmpty = true := rfl
  have parts : ((t.overRows q rows).named.map Prod.snd).filter (fun part => !part.isEmpty) =
      [t.aggregate q, (t.overRows q rows).source] := by
    simp only [overRows] at source
    simp [Components.named, overRows, words, nothing, source]
  have apart (s : String) : " " ++ ("FROM (" ++ s) = " FROM (" ++ s := by
    rw [← String.append_assoc]
    rfl
  rw [Components.sql, Sql.concat, parts]
  simp [Sql.join, overRows, String.append_assoc, apart]

theorem queryPaging_eq_nil_iff :
    t.queryPaging q = [] ↔ q.offset = none ∧ (q.limit = none ∨ t.dialect = .sqlServer) := by
  cases dialect : t.dialect <;> cases offset : q.offset <;> cases limit : q.limit <;>
    simp [queryPaging, limitAndOffset, offsetAndFetch, dialect, offset, limit]

theorem aggregated_pages {s : Sql} (compiled : q.aggregated.sql t = .ok s) :
    (q.groupLimit = none → ∀ word ∈ t.queryPaging q, StandsIn word s.text) ∧
      ∀ g, q.groupLimit = some g → StandsIn (t.rowRange g q.offset) s.text ∧
        ∀ word ∈ t.queryPaging { q with offset := none }, StandsIn word s.text := by
  rw [Query.sql_of_plain (q := q.aggregated) rfl] at compiled
  refine ⟨fun free => (freeRows_standIn (q := q.aggregated) free compiled).1.2, fun g limited => ?_⟩
  have limit : q.aggregated.groupLimit = some g := limited
  simp only [rows, limit] at compiled
  obtain ⟨⟨-, paging⟩, range⟩ := limitedGroups_standIn compiled
  exact ⟨range, paging⟩

end Target

namespace Query

variable {t : Target} {q : Query}

/-- The limit and the offset that the SELECT of an aggregate carries. -/
def carried (t : Target) (q : Query) : Option UInt64 × Option UInt64 :=
  if q.derivesRows then (none, none)
  else if t.dialect = .sqlServer ∧ q.offset = none then (none, none)
  else (q.limit, q.offset)

def page (paging : Option UInt64 × Option UInt64) (rows : List Row) : List Row :=
  let kept := rows.drop (paging.2.getD 0).toNat
  paging.1.elim kept fun n => kept.take n.toNat

theorem page_single (paging : Option UInt64 × Option UInt64) (row : Row) :
    page paging [row] = if paging.2.getD 0 = 0 ∧ paging.1 ≠ some 0 then [row] else [] := by
  obtain ⟨limit, offset⟩ := paging
  have cut (n : UInt64) : n ≠ 0 → 1 ≤ n.toNat := by
    intro positive
    have number : n.toNat ≠ 0 := fun zero => positive (UInt64.toNat_inj.mp zero)
    omega
  simp only [page]
  by_cases skipped : offset.getD 0 = 0
  · rw [skipped]
    cases limit with
    | none => simp
    | some n =>
      by_cases none : n = 0
      · simp [none]
      · have whole : [row].take n.toNat = [row] := List.take_of_length_le (cut n none)
        simp [none, whole]
  · have gone : [row].drop (offset.getD 0).toNat = [] := List.drop_eq_nil_of_le (cut _ skipped)
    cases limit <;> simp [gone, skipped]

section

variable (function : AggregateFunction) (columns : List String)

theorem toAggregate_of_whole (whole : q.derivesRows = false) {s : Sql}
    (compiled : (q.toAggregate function columns).sql t = .ok s) :
    ∃ c : Components, s = c.sql ∧ c.aggregate = t.aggregate (q.toAggregate function columns) ∧ c.columns = .empty ∧
      c.groups = t.groupBy q.groups ∧ c.paging = (t.queryPaging q).map Sql.ofText := by
  obtain ⟨⟨alone, -⟩, free⟩ : (q.unions = [] ∧ q.havings = []) ∧ q.groupLimit = none := by
    simpa [derivesRows] using whole
  rw [sql_eq_assemble, Target.assemble, toAggregate_derives, if_neg (by simp [whole]), toAggregate_eq] at compiled
  simp only [Target.rows, aggregated, free, alone] at compiled
  obtain ⟨c, found, compiled⟩ := ok_of_bind compiled
  cases compiled
  obtain ⟨list, listed, found⟩ := ok_of_bind found
  obtain ⟨source, -, found⟩ := ok_of_bind found
  obtain ⟨joins, -, found⟩ := ok_of_bind found
  obtain ⟨wheres, -, found⟩ := ok_of_bind found
  obtain ⟨havings, -, rfl⟩ := ok_of_map found
  cases listed
  rw [toAggregate_eq]
  exact ⟨_, rfl, rfl, rfl, rfl, rfl⟩

theorem fetchAggregate_of_answer {st : Statement} {server : Server} {sent : List Request} {rows : List Row}
    (compiled : (q.toAggregate function columns).selectStatement t = .ok st) (answer : server.rows sent st = .ok rows) :
    (q.fetchAggregate t function columns server sent).1 =
      .ok ((rows.head?.bind (·.get? "aggregate")).filter fun v => !v.isNull) := by
  have read : (q.toAggregate function columns).fetch t server sent = (.ok rows, sent ++ [⟨.rows, st⟩]) := by
    simp only [fetch, compiled]
    show (server.rows sent st, _) = _
    rw [answer]
  show (Session.bind ((q.toAggregate function columns).fetch t) _ server sent).1 = _
  simp only [Session.bind, read]
  rfl

theorem carried_paging (t : Target) (q : Query) :
    t.queryPaging { q with limit := (q.carried t).1, offset := (q.carried t).2 } =
      if q.derivesRows then [] else t.queryPaging q := by
  unfold carried
  split
  · exact Target.queryPaging_eq_nil_iff.mpr ⟨rfl, .inl rfl⟩
  · split
    · rename_i server
      rw [Target.queryPaging_eq_nil_iff.mpr ⟨server.2, .inr server.1⟩]
      exact Target.queryPaging_eq_nil_iff.mpr ⟨rfl, .inl rfl⟩
    · rfl

/-- The SELECT that computes an aggregate carries the limit and the offset of the query exactly if the rows are not
derived first; then a limit of zero rows or an offset takes the aggregate away from whoever reads it. -/
theorem aggregate_unpaged_iff {st : Statement}
    (compiled : (q.toAggregate function columns).selectStatement t = .ok st) :
    ∃ c : Components, st.sql = c.sql.text ∧ c.aggregate = t.aggregate (q.toAggregate function columns) ∧
      c.columns = .empty ∧ (q.groups = [] → c.groups = .empty) ∧
      c.paging = (t.queryPaging { q with limit := (q.carried t).1, offset := (q.carried t).2 }).map Sql.ofText ∧
      (c.paging = [] ↔ q.derivesRows ∨ q.offset = none ∧ (q.limit = none ∨ t.dialect = .sqlServer)) ∧
      (q.derivesRows → ∃ rows, q.aggregated.sql t = .ok rows ∧
        c.source = "FROM (" ++ rows ++ ") AS " ++ t.table "temp_table" ∧
        (q.groupLimit = none → ∀ word ∈ t.queryPaging q, StandsIn word rows.text) ∧
        ∀ g, q.groupLimit = some g → StandsIn (t.rowRange g q.offset) rows.text ∧
          ∀ word ∈ t.queryPaging { q with offset := none }, StandsIn word rows.text) ∧
      ∀ (server : Server) (sent : List Request) (row : Row) (value : Value), row.get? "aggregate" = some value →
        value.isNull = false → server.rows sent st = .ok (page (q.carried t) [row]) →
        (q.fetchAggregate t function columns server sent).1 =
          .ok (if (q.carried t).2.getD 0 = 0 ∧ (q.carried t).1 ≠ some 0 then some value else none) := by
  have reads (server : Server) (sent : List Request) (row : Row) (value : Value)
      (column : row.get? "aggregate" = some value) (found : value.isNull = false)
      (answer : server.rows sent st = .ok (page (q.carried t) [row])) :
      (q.fetchAggregate t function columns server sent).1 =
        .ok (if (q.carried t).2.getD 0 = 0 ∧ (q.carried t).1 ≠ some 0 then some value else none) := by
    rw [fetchAggregate_of_answer function columns compiled answer, page_single]
    split <;> simp [column, found]
  obtain ⟨s, sql, text⟩ := selectStatement_ok compiled
  cases derives : q.derivesRows with
  | true =>
    rw [toAggregate_of_derives derives] at sql
    obtain ⟨rows, inner, rfl⟩ := ok_of_map sql
    have same := Target.overRows_text (t := t) (q := q.toAggregate function columns) (by rw [toAggregate_eq]; rfl) rows
    refine ⟨t.overRows (q.toAggregate function columns) rows, text.trans same.symm, rfl, rfl, fun _ => rfl, ?_, ?_, ?_,
      reads⟩
    · simp [carried_paging, derives, Target.overRows]
    · simp [Target.overRows]
    · exact fun _ => ⟨rows, inner, rfl, Target.aggregated_pages inner⟩
  | false =>
    obtain ⟨c, rfl, aggregate, list, groups, paging⟩ := toAggregate_of_whole function columns derives sql
    refine ⟨c, text, aggregate, list, fun none => by simp [groups, none, Target.groupBy], ?_, ?_, nofun, reads⟩
    · simp [carried_paging, derives, paging]
    · simp [paging, Target.queryPaging_eq_nil_iff]

end

def answering (rows : List Row) : Server where
  rows _ _ := .ok rows
  effect _ _ := .ok true
  count _ _ := .ok 0
  lastId _ := .ok none

def counted (n : Int64) : Row := Row.ofList [("aggregate", .int n)]

def newcomers : Query where
  source := some (.table "staff")
  offset := some 5
  unions := [⟨{ source := some (.table "contractors") }, true⟩]

theorem newcomers_counted : ∃ st c,
    (newcomers.toAggregate .count ["*"]).selectStatement { dialect := .postgres } = .ok st ∧
    st.sql = (Components.sql c).text ∧ c.paging = [] ∧
    (newcomers.fetchAggregate { dialect := .postgres } .count ["*"] (answering [counted 12]) []).1 =
      .ok (some (.int 12)) := by
  obtain ⟨st, compiled, -⟩ : ∃ st, (newcomers.toAggregate .count ["*"]).selectStatement { dialect := .postgres } =
      .ok st ∧ true := ok_of_any (fun _ => true) (by decide +kernel)
  obtain ⟨c, text, -, -, -, -, unpaged, -, reads⟩ := aggregate_unpaged_iff .count ["*"] compiled
  refine ⟨st, c, compiled, text, unpaged.mpr (.inl rfl), ?_⟩
  exact reads (answering [counted 12]) [] (counted 12) (.int 12) rfl rfl rfl

def pastFive : Query where
  source := some (.table "staff")
  offset := some 5

/-- The offset counts off the only row of the answer, so that twelve are counted as none. -/
theorem pastFive_counted_none :
    ((pastFive.toAggregate .count ["*"]).sql { dialect := .postgres }).map Sql.text =
      .ok "SELECT COUNT(*) AS \"aggregate\" FROM \"staff\" OFFSET 5" ∧
    (pastFive.fetchCount { dialect := .postgres } (answering (page (none, some 5) [counted 12])) []).1 = .ok 0 :=
  ⟨rfl, rfl⟩

end Query

end SqlCompiler
