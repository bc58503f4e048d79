import SqlCompiler.Operator
import SqlCompiler.Query.Terms
import SqlCompiler.Value.Shown

namespace SqlCompiler

/-- What was wrong with a part of a query, of a table or of a configuration. -/
inductive Fault
  | unknownOperator (text : String)
  | unknownProduct (text : String)
  | unreadableVersion (text : String)
  | malformedConfig
  | unreadableDatePart (part : DatePart) (value : Value)
  | datePartOutOfRange (part : DatePart) (n : Int)
  | arrayInList
  | rowWidths (columns values : Nat)
  | nulCharacter
  | notFinite (x : Float)
  | noJsonKey (column : String)
  | noTargetTable
  | noUniqueColumns
  | noAssignments
  | noRowsToMerge
  | columnsDiffer (row first : List String)
  | unnamedPrimaryKey

def Fault.context : Fault → String
  | .unknownOperator _ => "operator"
  | .unknownProduct _ => "dialect"
  | .unreadableVersion _ => "server version"
  | .malformedConfig => "grammar config"
  | .unreadableDatePart _ _ | .datePartOutOfRange _ _ => "date predicate"
  | .arrayInList => "IN predicate"
  | .rowWidths _ _ => "row values predicate"
  | .nulCharacter | .notFinite _ => "literal"
  | .noJsonKey _ => "JSON key predicate"
  | .noTargetTable => "statement target"
  | .noUniqueColumns | .noRowsToMerge => "upsert"
  | .noAssignments => "update"
  | .columnsDiffer _ _ => "insert values"
  | .unnamedPrimaryKey => "drop primary"

def Fault.detail : Fault → String
  | .unknownOperator text => "unknown operator '" ++ text ++ "'"
  | .unknownProduct text => "unknown dialect '" ++ text ++ "'"
  | .unreadableVersion text => "cannot read '" ++ text ++ "'"
  | .malformedConfig => "not a configuration"
  | .unreadableDatePart part value => "cannot read a " ++ part.name ++ " from " ++ value.shown
  | .datePartOutOfRange part n => toString n ++ " is not a valid " ++ part.name
  | .arrayInList => "nested arrays may not be passed as IN values"
  | .rowWidths columns values =>
    toString columns ++ " columns cannot be compared with " ++ toString values ++ " values"
  | .nulCharacter => "strings may not contain NUL bytes"
  | .notFinite x => Decimal.Layout.literal.text x ++ " has no SQL representation"
  | .noJsonKey column => "'" ++ column ++ "' does not name a key"
  | .noTargetTable => "write statements need a table"
  | .noUniqueColumns => "at least one unique-by column is required"
  | .noAssignments => "no columns to update"
  | .noRowsToMerge => "no rows to merge"
  | .columnsDiffer row first =>
    "row sets columns [" ++ ", ".intercalate row ++ "] but the first row set [" ++ ", ".intercalate first ++ "]"
  | .unnamedPrimaryKey => "SQL Server needs the primary key constraint name"

inductive Feature
  | operator (op : Operator)
  | lateralJoin
  | rightLateralJoin
  | jsonContainment
  | fullTextSearch
  | fullTextMode (mode : FullTextMode)
  | groupLimit
  | insertOrIgnore
  | changingColumns
  | changingGeneratedColumns
  | virtualColumns
  | addingStoredColumns
  | droppingColumns
  | renamingColumnsInSqlite
  | renamingColumnsInMysql
  | setColumns
  | vectorColumns
  | untypedComputedColumns
  | addingPrimaryKey
  | droppingPrimaryKey
  | addingForeignKey
  | droppingForeignKey
  | fullTextIndexes
  | spatialIndexes
  | renamingIndexes
  | tableComments
  | columnComments
  | autoIncrementStart
  | creatingDatabases
  | droppingDatabases

def Feature.description : Feature → String
  | .operator op => "operator " ++ op.sql
  | .lateralJoin => "lateral joins"
  | .rightLateralJoin => "right lateral joins"
  | .jsonContainment => "JSON contains"
  | .fullTextSearch => "full-text search"
  | .fullTextMode mode => "full-text mode " ++ mode.name
  | .groupLimit => "group limit before window functions (3.25)"
  | .insertOrIgnore => "insert or ignore"
  | .changingColumns => "changing columns"
  | .changingGeneratedColumns => "changing generated columns"
  | .virtualColumns => "virtual generated columns"
  | .addingStoredColumns => "adding stored generated columns"
  | .droppingColumns => "dropping columns before SQLite 3.35"
  | .renamingColumnsInSqlite => "renaming columns before SQLite 3.25"
  | .renamingColumnsInMysql => "renaming columns before MySQL 8.0 / MariaDB 10.5.2"
  | .setColumns => "set columns"
  | .vectorColumns => "vector columns"
  | .untypedComputedColumns => "computed columns without a type"
  | .addingPrimaryKey => "adding a primary key to an existing table"
  | .droppingPrimaryKey => "dropping a primary key"
  | .addingForeignKey => "adding a foreign key to an existing table"
  | .droppingForeignKey => "dropping a foreign key"
  | .fullTextIndexes => "full-text indexes"
  | .spatialIndexes => "spatial indexes"
  | .renamingIndexes => "renaming indexes"
  | .tableComments => "table comments"
  | .columnComments => "column comment statements"
  | .autoIncrementStart => "auto-increment starting values"
  | .creatingDatabases => "creating databases"
  | .droppingDatabases => "dropping databases"

inductive RowProblem
  | noText (column : String)
  | noGeneratedId
  | noRow
  | emptyRow
  | notAnId (value : Value)

def RowProblem.description : RowProblem → String
  | .noText column => "row has no text column '" ++ column ++ "'"
  | .noGeneratedId => "connection reported no insert id"
  | .noRow => "insert returned no rows"
  | .emptyRow => "insert returned an empty row"
  | .notAnId value => "insert id " ++ value.shown ++ " is not an integer"

inductive Error
  | invalid (fault : Fault)
  | unsupported (dialect : String) (feature : Feature)
  | bindingCount (placeholders bindings : Nat)
  | connection (reason : String)
  | rows (problem : RowProblem)

def Error.message : Error → String
  | .invalid fault => "Invalid " ++ fault.context ++ ": " ++ fault.detail
  | .unsupported dialect feature =>
    "The " ++ dialect ++ " grammar does not support " ++ feature.description
  | .bindingCount placeholders bindings =>
    "Compiled statement has " ++ toString placeholders ++ " placeholders but " ++ toString bindings ++ " bindings"
  | .connection reason => "Connection error: " ++ reason
  | .rows problem => "Failed to process result: " ++ problem.description

theorem ok_of_bind {α β : Type} {first : Except Error α} {next : α → Except Error β} {b : β}
    (whole : first >>= next = .ok b) : ∃ a, first = .ok a ∧ next a = .ok b := by
  cases first with
  | ok a => exact ⟨a, rfl, whole⟩
  | error e => cases whole

theorem ok_of_map {α β : Type} {first : Except Error α} {f : α → β} {b : β}
    (whole : (first >>= fun a => Pure.pure (f a)) = .ok b) : ∃ a, first = .ok a ∧ f a = b := by
  obtain ⟨a, found, result⟩ := ok_of_bind whole
  exact ⟨a, found, Except.ok.inj result⟩

theorem ok_of_any {α : Type} {result : Except Error α} (test : α → Bool)
    (passes : result.toOption.any test) : ∃ compiled, result = .ok compiled ∧ test compiled := by
  cases result with
  | ok compiled => exact ⟨compiled, rfl, passes⟩
  | error e => cases passes

end SqlCompiler
