import SqlCompiler.Proofs.Versions.Gates
import SqlCompiler.Select.Compile

namespace SqlCompiler.Target

variable (t : Target) (v : Option Version)

@[simp]
theorem versioned_tablePrefix : (t.versioned v).tablePrefix = t.tablePrefix := rfl

@[simp]
theorem versioned_table : (t.versioned v).table = t.table := by
  funext name
  simp only [table, plainTable, versioned_dialect, versioned_tablePrefix]

@[simp]
theorem versioned_dotted : (t.versioned v).dotted = t.dotted := by
  funext name
  simp only [dotted, versioned_table, versioned_dialect]

@[simp]
theorem versioned_column : (t.versioned v).column = t.column := by
  funext name
  simp only [column, plainColumn, jsonColumn, versioned_dotted, versioned_dialect]

@[simp]
theorem versioned_columns : (t.versioned v).columns = t.columns := by
  funext names
  simp only [columns, versioned_column]

@[simp]
theorem versioned_comparison : (t.versioned v).comparison = t.comparison := by
  funext column op value
  simp only [comparison, versioned_column, versioned_dialect]

@[simp]
theorem versioned_membership : (t.versioned v).membership = t.membership := by
  funext column values negated
  simp only [membership, versioned_column, versioned_dialect]

@[simp]
theorem versioned_datePartComparison : (t.versioned v).datePartComparison = t.datePartComparison := by
  funext column part op value
  simp only [datePartComparison, datePart, versioned_column, versioned_dialect]

@[simp]
theorem versioned_jsonArguments : (t.versioned v).jsonArguments = t.jsonArguments := by
  funext field path
  simp only [jsonArguments, versioned_dotted]

@[simp]
theorem versioned_jsonDocument : (t.versioned v).jsonDocument = t.jsonDocument := by
  funext field path
  simp only [jsonDocument, versioned_dotted]

@[simp]
theorem versioned_jsonLength : (t.versioned v).jsonLength = t.jsonLength := by
  funext column
  simp only [jsonLength, versioned_jsonArguments, versioned_jsonDocument, versioned_dialect]

@[simp]
theorem versioned_jsonHasKey : (t.versioned v).jsonHasKey = t.jsonHasKey := by
  funext column
  simp only [jsonHasKey, versioned_jsonArguments, versioned_jsonDocument, versioned_dotted, versioned_dialect]

@[simp]
theorem versioned_grouping : (t.versioned v).grouping = t.grouping := by
  funext group
  cases group <;> simp only [grouping, versioned_column]

@[simp]
theorem versioned_groupBy : (t.versioned v).groupBy = t.groupBy := by
  funext groups
  simp only [groupBy, versioned_grouping]

@[simp]
theorem versioned_order : (t.versioned v).order = t.order := by
  funext order
  cases order <;> simp only [Target.order, randomOrder, versioned_column, versioned_dialect]

@[simp]
theorem versioned_orderBy : (t.versioned v).orderBy = t.orderBy := by
  funext orders
  simp only [orderBy, versioned_order]

@[simp]
theorem versioned_queryOrder : (t.versioned v).queryOrder = t.queryOrder := by
  funext q
  simp only [queryOrder, versioned_orderBy, versioned_dialect]

@[simp]
theorem versioned_limitAndOffset : (t.versioned v).limitAndOffset = t.limitAndOffset := by
  funext limit offset
  simp only [limitAndOffset, unlimited, versioned_dialect]

@[simp]
theorem versioned_queryPaging : (t.versioned v).queryPaging = t.queryPaging := by
  funext q
  simp only [queryPaging, versioned_limitAndOffset, versioned_dialect]

@[simp]
theorem versioned_selectKeyword : (t.versioned v).selectKeyword = t.selectKeyword := by
  funext q
  simp only [selectKeyword, versioned_columns, versioned_dialect]

@[simp]
theorem versioned_aggregate : (t.versioned v).aggregate = t.aggregate := by
  funext q
  simp only [aggregate, aggregateColumns, versioned_columns, versioned_dialect]

@[simp]
theorem versioned_indexHint : (t.versioned v).indexHint = t.indexHint := by
  funext hint
  simp only [indexHint, hintedIndexes, versioned_dialect]

@[simp]
theorem versioned_lockClause : (t.versioned v).lockClause = t.lockClause := by
  funext lock
  cases lock <;> simp only [lockClause, versioned_dialect]

@[simp]
theorem versioned_sourceTable : (t.versioned v).sourceTable = t.sourceTable := by
  funext q name
  simp only [sourceTable, versioned_table, versioned_dialect]

@[simp]
theorem versioned_rowNumber : (t.versioned v).rowNumber = t.rowNumber := by
  funext column orders
  simp only [rowNumber, versioned_column, versioned_dialect]

@[simp]
theorem versioned_rowRange : (t.versioned v).rowRange = t.rowRange := by
  funext g offset
  simp only [rowRange, versioned_dialect]

@[simp]
theorem versioned_unionMember : (t.versioned v).unionMember = t.unionMember := by
  funext sql
  simp only [unionMember, versioned_table, versioned_dialect]

@[simp]
theorem versioned_unionTail : (t.versioned v).unionTail = t.unionTail := by
  funext q members
  simp only [unionTail, unionPaging, versioned_orderBy, versioned_limitAndOffset, versioned_dialect]

@[simp]
theorem versioned_derivedTable : (t.versioned v).derivedTable = t.derivedTable := by
  funext rows name
  simp only [derivedTable, versioned_table]

end SqlCompiler.Target
