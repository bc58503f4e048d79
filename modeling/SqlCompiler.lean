import SqlCompiler.Config
import SqlCompiler.Main
import SqlCompiler.Query.Building
import SqlCompiler.Schema.Building
import SqlCompiler.Schema.Document
import SqlCompiler.Session.Query
import SqlCompiler.Session.Schema
import SqlCompiler.Proofs.Placement.PlainNames
import SqlCompiler.Proofs.Placement.WrittenNames
import SqlCompiler.Proofs.Placement.Comparisons
import SqlCompiler.Proofs.Placement.Clauses
import SqlCompiler.Proofs.Placement.Assembly
import SqlCompiler.Proofs.Placement.Rows
import SqlCompiler.Proofs.Placement.Nested
import SqlCompiler.Proofs.Placement.Selects
import SqlCompiler.Proofs.Placement.Assignments
import SqlCompiler.Proofs.Placement.Writes
import SqlCompiler.Proofs.Placement.Changes
import SqlCompiler.Proofs.Placement.LimitedChanges
import SqlCompiler.Proofs.Erasure.Erasing
import SqlCompiler.Proofs.Erasure.Texts
import SqlCompiler.Proofs.Erasure.Assembly
import SqlCompiler.Proofs.Erasure.Queries
import SqlCompiler.Proofs.Erasure.Rows
import SqlCompiler.Proofs.Erasure.Writes
import SqlCompiler.Proofs.Erasure.Outcomes
import SqlCompiler.Proofs.Quoting.TextLiterals
import SqlCompiler.Proofs.Quoting.QuotedNames
import SqlCompiler.Proofs.Quoting.DocumentPaths
import SqlCompiler.Proofs.Quoting.ValueLiterals
import SqlCompiler.Proofs.Quoting.Substitution
import SqlCompiler.Proofs.Retention.LateralConditions
import SqlCompiler.Proofs.Retention.Unions
import SqlCompiler.Proofs.Retention.Joins
import SqlCompiler.Proofs.Retention.Restrictions
import SqlCompiler.Proofs.Retention.RestrictedChanges
import SqlCompiler.Proofs.Quoting.DottedNames
import SqlCompiler.Proofs.Retention.Assignments
import SqlCompiler.Proofs.Placement.Insertions
import SqlCompiler.Proofs.Quoting.QualifiedColumns
import SqlCompiler.Proofs.Constraints.PrimaryKeys
import SqlCompiler.Proofs.Quoting.TableLiterals
import SqlCompiler.Proofs.Aggregates.Paging
import SqlCompiler.Proofs.Conditions.Meaning
import SqlCompiler.Proofs.Quoting.ArrayPaths
import SqlCompiler.Proofs.Capabilities.Queries
import SqlCompiler.Proofs.Versions.Jobs
import SqlCompiler.Proofs.Documents.Files
import SqlCompiler.Proofs.Quoting.Refusals
import SqlCompiler.Proofs.Records.Tabulation
import SqlCompiler.Proofs.Paging.Selects
import SqlCompiler.Proofs.Completion.Commands
import SqlCompiler.Proofs.Columns.Generation
import SqlCompiler.Proofs.Conditions.TruthValues
import SqlCompiler.Proofs.Dates.Readings
import SqlCompiler.Proofs.Dates.Normal
import SqlCompiler.Proofs.Versions.Texts
import SqlCompiler.Proofs.Records.InsertedRows
import SqlCompiler.Proofs.Sessions.Schemas
import SqlCompiler.Proofs.Sessions.GeneratedKeys
import SqlCompiler.Proofs.Sessions.ResultKeys
import SqlCompiler.Proofs.Building.Reorderings
import SqlCompiler.Proofs.Paging.Pages
import SqlCompiler.Proofs.Building.Buckets
