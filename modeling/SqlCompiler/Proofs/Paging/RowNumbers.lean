import Mathlib.Algebra.Group.Nat.Defs
import SqlCompiler.Proofs.Aggregates.DerivedRows
import SqlCompiler.Proofs.Documents.Numbers
import SqlCompiler.Proofs.Quoting.QualifiedColumns
import SqlCompiler.Proofs.Retention.Restrictions

namespace SqlCompiler

inductive RowTest
  | atMost (n : Nat)
  | above (n : Nat)
deriving DecidableEq

namespace RowTest

def admits (r : Nat) : RowTest → Bool
  | .atMost n => r ≤ n
  | .above n => n < r

def read? (row name operator number : List Char) : Option RowTest :=
  if name = row then do
    let n ← Decimal.nat? number
    match operator with
    | ['<', '='] => some (.atMost n)
    | ['>'] => some (.above n)
    | _ => none
  else none

def readAll? (row : List Char) : List (List Char) → Option (List RowTest)
  | [name, operator, number] => (read? row name operator number).map ([·])
  | name :: operator :: number :: ['A', 'N', 'D'] :: rest => do
    let test ← read? row name operator number
    let later ← readAll? row rest
    return test :: later
  | _ => none

end RowTest

def readFilter? (row filter : String) : Option (List RowTest) :=
  RowTest.readAll? row.toList (Text.split ' ' filter.toList)

def rowTests (g : GroupLimit) (offset : Option UInt64) : List RowTest :=
  .atMost (Target.lastRow g offset) :: (offset.map fun n => .above n.toNat).toList

/-- The rows of a group, numbered from one, that pass all tests. -/
def passing {α : Type} (tests : List RowTest) (rows : List α) : List α :=
  ((rows.zipIdx 1).filter fun row => tests.all (RowTest.admits row.2)).map Prod.fst

theorem rowTests_admit_iff (g : GroupLimit) (offset : Option UInt64) {r : Nat} (first : 1 ≤ r) (last : r < 2 ^ 64) :
    (rowTests g offset).all (RowTest.admits r) ↔
      (offset.getD 0).toNat < r ∧ r ≤ g.count.toNat + (offset.getD 0).toNat := by
  have most : Query.greatest = 2 ^ 64 - 1 := rfl
  cases offset with
  | none =>
    have zero : (0 : UInt64).toNat = 0 := rfl
    simp only [rowTests, RowTest.admits, Target.lastRow, most, Option.map_none, Option.getD_none, Option.toList_none,
      List.all_cons, List.all_nil, Bool.and_true, decide_eq_true_eq, zero]
    omega
  | some n =>
    simp only [rowTests, RowTest.admits, Target.lastRow, most, Option.map_some, Option.getD_some, Option.toList_some,
      List.all_cons, List.all_nil, Bool.and_true, Bool.and_eq_true, decide_eq_true_eq]
    omega

theorem filter_zipIdx {α : Type} (low high start : Nat) (rows : List α) :
    ((rows.zipIdx start).filter fun row => low < row.2 ∧ row.2 ≤ high).map Prod.fst =
      (rows.take (high + 1 - start)).drop (low + 1 - start) := by
  induction rows generalizing start with
  | nil => simp
  | cons row rows ih =>
    have later := ih (start + 1)
    rw [List.zipIdx_cons, List.filter_cons]
    by_cases within : start ≤ high
    · have more : high + 1 - start = (high + 1 - (start + 1)) + 1 := by omega
      rw [more, List.take_succ_cons]
      by_cases skipped : start ≤ low
      · have fewer : low + 1 - start = (low + 1 - (start + 1)) + 1 := by omega
        rw [if_neg (by simp; omega), later, fewer, List.drop_succ_cons]
      · have none : low + 1 - start = 0 := by omega
        have none' : low + 1 - (start + 1) = 0 := by omega
        rw [if_pos (by simp; omega), List.map_cons, later, none, none', List.drop_zero, List.drop_zero]
    · have past : high + 1 - start = 0 := by omega
      have past' : high + 1 - (start + 1) = 0 := by omega
      rw [if_neg (by simp; omega), later, past, past', List.take_zero, List.take_zero, List.drop_nil, List.drop_nil]

theorem passing_rowTests {α : Type} (g : GroupLimit) (offset : Option UInt64) {rows : List α}
    (small : rows.length < 2 ^ 64) :
    passing (rowTests g offset) rows = (rows.drop (offset.getD 0).toNat).take g.count.toNat := by
  have same : (rows.zipIdx 1).filter (fun row => (rowTests g offset).all (RowTest.admits row.2)) =
      (rows.zipIdx 1).filter fun row =>
        (offset.getD 0).toNat < row.2 ∧ row.2 ≤ g.count.toNat + (offset.getD 0).toNat := by
    apply List.filter_congr
    rintro ⟨row, r⟩ member
    obtain ⟨first, last, -⟩ := List.mem_zipIdx member
    have tests := rowTests_admit_iff g offset first (r := r) (by omega)
    exact Bool.eq_iff_iff.mpr (tests.trans (decide_eq_true_iff).symm)
  rw [passing, same, filter_zipIdx, Nat.add_sub_cancel, Nat.add_sub_cancel, List.drop_take, Nat.add_sub_cancel]

def Query.skipping (q : Query) (offset : Option UInt64) : Query := { q with offset }

namespace Target

variable {t : Target}

def rowFilter (t : Target) (g : GroupLimit) (offset : Option UInt64) : String :=
  t.lastRowTest g offset ++ (offset.map fun n => " AND " ++ t.skippedRowTest n).getD ""

theorem rowRange_eq_rowFilter (t : Target) (g : GroupLimit) (offset : Option UInt64) :
    t.rowRange g offset = t.rowFilter g offset ++ (" ORDER BY " ++ t.dialect.quoteName "group_row") := by
  rw [rowRange_eq, rowFilter]
  cases offset <;> rfl

theorem blank_not_mem_row (d : Dialect) : ' ' ∉ (d.quoteName "group_row").toList := by
  cases d <;> decide

theorem blank_not_mem_digits (n : Nat) : ' ' ∉ Decimal.digits n :=
  fun member => absurd (Decimal.isDigit_of_mem_digits member) (by decide)

theorem readFilter?_rowFilter (t : Target) (g : GroupLimit) (offset : Option UInt64) :
    readFilter? (t.dialect.quoteName "group_row") (t.rowFilter g offset) = some (rowTests g offset) := by
  have name := blank_not_mem_row t.dialect
  have digits := blank_not_mem_digits
  have atMost : ' ' ∉ ['<', '='] := by decide
  have above : ' ' ∉ ['>'] := by decide
  have and : ' ' ∉ ['A', 'N', 'D'] := by decide
  generalize row_eq : (t.dialect.quoteName "group_row").toList = row at name
  cases offset with
  | none =>
    have words : (t.rowFilter g none).toList =
        row ++ ' ' :: (['<', '='] ++ ' ' :: Decimal.digits (lastRow g none)) := by
      simp [rowFilter, lastRowTest, row_eq, Decimal.digits]
    rw [readFilter?, words, row_eq, Text.split_append name, Text.split_append atMost,
      Text.split_of_not_mem (digits _)]
    simp [RowTest.readAll?, RowTest.read?, Decimal.nat?_digits, rowTests]
  | some n =>
    have words : (t.rowFilter g (some n)).toList =
        row ++ ' ' :: (['<', '='] ++ ' ' :: (Decimal.digits (lastRow g (some n)) ++ ' ' :: (['A', 'N', 'D'] ++
          ' ' :: (row ++ ' ' :: (['>'] ++ ' ' :: Decimal.digits n.toNat))))) := by
      simp [rowFilter, lastRowTest, skippedRowTest, row_eq, Decimal.digits]
    rw [readFilter?, words, row_eq, Text.split_append name, Text.split_append atMost, Text.split_append (digits _),
      Text.split_append and, Text.split_append name, Text.split_append above, Text.split_of_not_mem (digits _)]
    simp [RowTest.readAll?, RowTest.read?, Decimal.nat?_digits, rowTests]

/-- A statement for each offset: around the filter of its rows it is the same for all of them, or the same error. The
filter is all that stands between the word before it and the order by row number. -/
def FiltersRows (t : Target) (g : GroupLimit) (compiled : Option UInt64 → Except Error Sql) : Prop :=
  ∃ frame : Except Error (Sql × Sql),
    (∀ front back, frame = .ok (front, back) → ∃ before, front.text = before ++ ") AS " ++
      t.dialect.quoteName "group_table" ++ (if t.numbersRows then " WHERE " else " HAVING ")) ∧
    ∀ offset, compiled offset = frame.map fun (front, back) =>
      front ++ Sql.ofText (t.rowFilter g offset ++ (" ORDER BY " ++ t.dialect.quoteName "group_row")) ++ back

theorem FiltersRows.between {g : GroupLimit} {compiled : Option UInt64 → Except Error Sql}
    (filters : t.FiltersRows g compiled) (before after : Sql) :
    t.FiltersRows g fun offset => (compiled offset).map fun rows => before ++ rows ++ after := by
  obtain ⟨frame, keyword, same⟩ := filters
  refine ⟨frame.map fun (front, back) => (before ++ front, back ++ after), fun front back framed => ?_,
    fun offset => ?_⟩
  · obtain ⟨⟨front', back'⟩, inner, outer⟩ := ok_of_map framed
    cases outer
    obtain ⟨start, text⟩ := keyword front' back' inner
    exact ⟨before.text ++ start, by simp only [Sql.text_append, text, String.append_assoc]⟩
  · simp only [same]
    cases frame with
    | error => rfl
    | ok frame => simp only [Except.map, Sql.append_assoc]

theorem rowsOf_limited {q : Query} {g : GroupLimit} (limited : q.groupLimit = some g) (c : Components)
    (members : List Sql) : ∃ front : Sql, (∃ before, front.text = before ++ ") AS " ++
        t.dialect.quoteName "group_table" ++ (if t.numbersRows then " WHERE " else " HAVING ")) ∧
      ∀ offset, t.rowsOf (q.skipping offset) c members = front ++ Sql.ofText (t.rowRange g offset) := by
  cases numbered : t.numbersRows with
  | true =>
    let inside := { c with columns := c.columns ++ t.rowNumber g.column c.orders, orders := .empty }
    let front : Sql := "SELECT * FROM (" ++ inside.sql ++ ") AS " ++ t.dialect.quoteName "group_table" ++ " WHERE "
    refine ⟨front, ⟨"SELECT * FROM (" ++ inside.sql.text, by simp [front]⟩, fun offset => ?_⟩
    simp only [rowsOf, Query.skipping, limited, numbered, if_true]
    rfl
  | false =>
    let key := t.dialect.quoteName (Text.lastPart '.' g.column)
    let table := t.dialect.quoteName "group_table"
    let counting : Sql :=
      "SELECT " ++ table ++ ".*, @group_row := IF(@group_key = " ++ key ++ ", @group_row + 1, 1) AS " ++
        t.dialect.quoteName "group_row" ++ ", @group_key := " ++ key ++
        " FROM (SELECT @group_row := 0, @group_key := 0) AS " ++ t.dialect.quoteName "group_variables" ++ ", (" ++ c.sql
    refine ⟨counting ++ ") AS " ++ table ++ " HAVING ", ⟨counting.text, by simp [table]⟩, fun offset => ?_⟩
    simp only [rowsOf, Query.skipping, limited, numbered, if_neg Bool.false_ne_true]
    rfl

theorem rows_filters {q : Query} {g : GroupLimit} (limited : q.groupLimit = some g) (p : Parts) :
    t.FiltersRows g fun offset => t.rows (q.skipping offset) p := by
  have core (offset : Option UInt64) : (q.skipping offset).core t = q.core t := by
    simp only [Query.core, Query.skipping, limited]
  have refuses (offset : Option UInt64) : t.refusesGroupLimit (q.skipping offset) = t.refusesGroupLimit q := rfl
  have members (offset : Option UInt64) : writtenMembers (q.skipping offset) p = .ok [] := by
    simp [writtenMembers, Query.skipping, limited]
  simp only [rows_eq, refuses, core, members]
  by_cases refused : t.refusesGroupLimit q = true
  · simp only [refused, if_true]
    exact ⟨.error (.unsupported t.name .groupLimit), (fun _ _ framed => by cases framed), fun offset => rfl⟩
  · simp only [if_neg refused]
    cases t.components (q.core t) p with
    | error e => exact ⟨.error e, (fun _ _ framed => by cases framed), fun _ => rfl⟩
    | ok c =>
      obtain ⟨front, keyword, same⟩ := t.rowsOf_limited limited c []
      refine ⟨.ok (front, .empty), fun front' back framed => ?_, fun offset => ?_⟩
      · cases framed
        exact keyword
      · show Except.ok (t.rowsOf (q.skipping offset) c []) = Except.ok (_ ++ Sql.empty)
        rw [same, rowRange_eq_rowFilter, Sql.append_empty]

end Target

theorem Query.sql_filters {t : Target} {q : Query} {g : GroupLimit} (limited : q.groupLimit = some g) :
    t.FiltersRows g fun offset => (q.skipping offset).sql t := by
  cases aggregate : q.aggregate with
  | none =>
    have plain (offset : Option UInt64) : (q.skipping offset).sql t = t.rows (q.skipping offset) (q.parts t) :=
      sql_of_plain aggregate
    simp only [plain]
    exact Target.rows_filters limited (q.parts t)
  | some a =>
    have derived (offset : Option UInt64) : (q.skipping offset).sql t =
        (t.rows (q.withoutAggregate.skipping offset) (q.parts t)).map fun rows =>
          (t.aggregate q ++ " FROM (" : Sql) ++ rows ++ (") AS " ++ t.table "temp_table" : Sql) := by
      have derives : Target.aggregatesDerived (q.skipping offset) = true := by
        simp [Target.aggregatesDerived, skipping, aggregate, limited]
      rw [sql_eq_assemble, Target.assemble, if_pos derives]
      show (t.rows (q.withoutAggregate.skipping offset) (q.parts t) >>= _) = _
      cases t.rows (q.withoutAggregate.skipping offset) (q.parts t) with
      | error e => rfl
      | ok rows => exact congrArg Except.ok (Sql.append_assoc _ _ _)
    simp only [derived]
    exact (Target.rows_filters (q := q.withoutAggregate) limited (q.parts t)).between _ _

/-- A limit for groups is a filter of row numbers. For every limit and every offset it is read back as tests that pass
exactly the numbers behind the offset up to the limit, and so keep those rows of a group; the tests are the same in
every statement, whichever way it numbers its rows, and the offset is written in no other place of it. -/
theorem groupLimit_filters (g : GroupLimit) :
    (∀ (offset : Option UInt64) (r : Nat), 1 ≤ r → r < 2 ^ 64 → ((rowTests g offset).all (RowTest.admits r) ↔
      (offset.getD 0).toNat < r ∧ r ≤ g.count.toNat + (offset.getD 0).toNat)) ∧
    (∀ (α : Type) (offset : Option UInt64) (rows : List α), rows.length < 2 ^ 64 →
      passing (rowTests g offset) rows = (rows.drop (offset.getD 0).toNat).take g.count.toNat) ∧
    (∀ (t : Target) (offset : Option UInt64),
      readFilter? (t.dialect.quoteName "group_row") (t.rowFilter g offset) = some (rowTests g offset)) ∧
    ∀ (t : Target) (q : Query), q.groupLimit = some g → t.FiltersRows g fun offset => (q.skipping offset).sql t :=
  ⟨fun offset _ first last => rowTests_admit_iff g offset first last,
    fun _ offset _ small => passing_rowTests g offset small,
    fun t offset => t.readFilter?_rowFilter g offset,
    fun _ _ limited => Query.sql_filters limited⟩

def onePaid : Query where
  source := some (.table "staff")
  orders := [.column "pay" .desc]
  groupLimit := some ⟨1, "department"⟩

def oldMysql : Target where
  dialect := .mysql
  version := some ⟨5, 7, 44, false⟩

theorem onePaid_filtered : oldMysql.numbersRows = false ∧
    (oldMysql.FiltersRows ⟨1, "department"⟩ fun offset => (onePaid.skipping offset).sql oldMysql) ∧
    (Target.FiltersRows { dialect := .postgres } ⟨1, "department"⟩ fun offset =>
      (onePaid.skipping offset).sql { dialect := .postgres }) ∧
    readFilter? "`group_row`" "`group_row` <= 2 AND `group_row` > 1" = some [.atMost 2, .above 1] ∧
    passing [.atMost 2, .above 1] ["Ann", "Bob", "Cy"] = ["Bob"] ∧
    ¬ (rowTests ⟨1, "department"⟩ (some 18446744073709551615)).all (RowTest.admits 18446744073709551615) := by
  obtain ⟨exactly, keeps, read, filters⟩ := groupLimit_filters ⟨1, "department"⟩
  refine ⟨rfl, filters oldMysql onePaid rfl, filters _ onePaid rfl, read oldMysql (some 1), ?_, ?_⟩
  · exact keeps String (some 1) ["Ann", "Bob", "Cy"] (by decide)
  · rw [exactly _ _ (by decide) (by decide)]
    exact fun both => absurd both.1 (by decide)

end SqlCompiler
