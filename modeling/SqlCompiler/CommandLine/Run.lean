import SqlCompiler.Catalog.Question
import SqlCompiler.CommandLine.Request
import SqlCompiler.Config
import SqlCompiler.Schema.Compile
import SqlCompiler.Schema.Document

namespace SqlCompiler.CommandLine

inductive Failure
  | unreadableFile (path : String)
  | malformedBlueprint (path : String)
  | noProduct
  | noTable
  | refused (error : Error)

def Failure.message : Failure → String
  | .unreadableFile path => "reading " ++ path
  | .malformedBlueprint path => "parsing blueprint " ++ path
  | .noProduct => "no dialect given; pass --dialect or --config"
  | .noTable => "this catalog query needs a table name"
  | .refused error => error.message

def refuse {α : Type} (result : Except Error α) : Except Failure α := result.mapError .refused

def readFile (files : String → Option String) (path : String) : Except Failure String :=
  match files path with
  | some text => .ok text
  | none => .error (.unreadableFile path)

def Options.configuration (files : String → Option String) (o : Options) : Except Failure Config := do
  let base ←
    match o.config, o.product with
    | some path, _ => refuse (Config.ofText (← readFile files path))
    | none, some product => pure { product }
    | none, none => throw .noProduct
  return { base with
    product := o.product.getD base.product
    serverVersion := o.serverVersion <|> base.serverVersion
    tablePrefix := o.tablePrefix.getD base.tablePrefix }

def blueprintStatements (files : String → Option String) (c : Config) (path : String) :
    Except Failure (List String) := do
  let text ← readFile files path
  match (Json.readRecord? Blueprint.fieldNames text).bind Blueprint.ofJson? with
  | none => throw (.malformedBlueprint path)
  | some b => refuse (c.target.bind b.statements)

def aboutTable (table : Option String) (question : String → Except Error String) : Except Failure String :=
  match table with
  | some table => refuse (question table)
  | none => throw .noTable

def catalogQuestion (c : Config) (kind : CatalogKind) (table schema : Option String) : Except Failure String := do
  let t ← refuse c.target
  match kind with
  | .tables => refuse (t.tablesQuery schema)
  | .views => refuse (t.viewsQuery schema)
  | .columns => aboutTable table (t.columnsQuery schema)
  | .indexes => aboutTable table (t.indexesQuery schema)
  | .foreignKeys => aboutTable table (t.foreignKeysQuery schema)

def Task.statements (files : String → Option String) (c : Config) : Task → Except Failure (List String)
  | .schema path => blueprintStatements files c path
  | .introspect kind table owner => do return [← catalogQuestion c kind table owner]

inductive Outcome
  | unclear
  | printed (text : String)
  | failed (failure : Failure)

def Outcome.exitCode : Outcome → UInt8
  | .printed _ => 0
  | .failed _ => 1
  | .unclear => 2

def versionText : String := "oxide-grammar 0.1.0\n"

def printedStatements (statements : List String) : String := "".intercalate (statements.map (· ++ ";\n"))

def Request.outcome (files : String → Option String) : Request → Outcome
  | .unclear => .unclear
  | .version => .printed versionText
  | .run o task =>
    match (o.configuration files).bind fun c => task.statements files c with
    | .ok statements => .printed (printedStatements statements)
    | .error failure => .failed failure

end SqlCompiler.CommandLine
