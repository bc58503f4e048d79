import SqlCompiler.CommandLine.Argument
import SqlCompiler.Dialect

namespace SqlCompiler.CommandLine

inductive CatalogKind
  | tables
  | views
  | columns
  | indexes
  | foreignKeys
deriving DecidableEq

namespace CatalogKind

def all : List CatalogKind := [.tables, .views, .columns, .indexes, .foreignKeys]

def name : CatalogKind → String
  | .tables => "tables"
  | .views => "views"
  | .columns => "columns"
  | .indexes => "indexes"
  | .foreignKeys => "foreign-keys"

def ofName? (name : String) : Option CatalogKind := all.find? fun kind => kind.name == name

end CatalogKind

inductive Task
  | schema (blueprint : String)
  | introspect (kind : CatalogKind) (table schema : Option String)
deriving DecidableEq

namespace Task

def introspectSwitches : List Switch := [{ word := "schema", letter := some 's' }]

def gather : List Argument → Option (List String × List String)
  | [] => some ([], [])
  | .fault :: _ => none
  | .plain text _ :: rest | .forced text :: rest => (gather rest).map fun (texts, values) => (text :: texts, values)
  | .option _ value :: rest => (gather rest).map fun (texts, values) => (texts, value.toList ++ values)

def ofArguments? (name : String) (rest : List String) : Option Task :=
  match name with
  | "schema" =>
    match gather (arguments [] none rest) with
    | some ([path], _) => if path = "" then none else some (.schema path)
    | _ => none
  | "introspect" =>
    match gather (arguments introspectSwitches none rest) with
    | some (kind :: tables, schemas) =>
      if tables.length ≤ 1 ∧ schemas.length ≤ 1 then
        (CatalogKind.ofName? kind).map (.introspect · tables.head? schemas.head?)
      else none
    | _ => none
  | _ => none

end Task

structure Options where
  product : Option Product := none
  serverVersion : Option String := none
  tablePrefix : Option String := none
  config : Option String := none
  verbose : Bool := false
deriving DecidableEq

namespace Options

def switches : List Switch :=
  [{ word := "dialect", letter := some 'd' }, { word := "server-version" }, { word := "prefix", letter := some 'p' },
    { word := "config", letter := some 'c' }, { word := "verbose", letter := some 'v', takesValue := false },
    { word := "version", letter := some 'V', takesValue := false }]

def set? (o : Options) : String → Option String → Option Options
  | "dialect", some text =>
    if o.product.isSome then none else (Product.ofText text).toOption.map fun p => { o with product := some p }
  | "server-version", some text => if o.serverVersion.isSome then none else some { o with serverVersion := some text }
  | "prefix", some text => if o.tablePrefix.isSome then none else some { o with tablePrefix := some text }
  | "config", some path => if o.config.isSome ∨ path = "" then none else some { o with config := some path }
  | "verbose", none => if o.verbose then none else some { o with verbose := true }
  | _, _ => none

end Options

inductive Request
  | unclear
  | version
  | run (options : Options) (task : Task)
deriving DecidableEq

namespace Request

/-- Arguments are read in order: a fault before the question for the version comes first, and one after it does not
count. -/
def ofOptions (o : Options) : List Argument → Request
  | .option "version" none :: _ => .version
  | .option word value :: rest =>
    match o.set? word value with
    | some o => ofOptions o rest
    | none => .unclear
  | .plain name rest :: _ =>
    match Task.ofArguments? name rest with
    | some task => .run o task
    | none => .unclear
  | _ => .unclear

def ofTexts (environment : Option String) (texts : List String) : Request :=
  match ofOptions {} (arguments Options.switches none texts), environment with
  | .run o task, some text =>
    if o.product.isSome then .run o task
    else
      match Product.ofText text with
      | .ok p => .run { o with product := some p } task
      | .error _ => .unclear
  | request, _ => request

def files : Request → List String
  | .run o (.schema path) => o.config.toList ++ [path]
  | .run o _ => o.config.toList
  | _ => []

end Request

end SqlCompiler.CommandLine
