import SqlCompiler.Identifier
import SqlCompiler.Sql

namespace SqlCompiler

namespace Text

def unbracket (step : String) : String :=
  match step.toList with
  | '[' :: rest => if rest.getLast? = some ']' then String.ofList rest.dropLast else step
  | _ => step

end Text

def notWord (negated : Bool) : String := if negated then "NOT " else ""

/-- How long an array is at least that has an element at an index; lengths have 64 bits. -/
def lengthFor (index : Int64) : Int := min (index.toInt + 1) Int64.maxValue.toInt

namespace Target

/-- A column against a value. Postgres reads patterns against text only; Postgres and SQL Server need a truth value
where a bitwise operator yields a number. -/
def comparison (t : Target) (column : String) (op : Operator) (value : Operand) : Sql :=
  match t.dialect with
  | .postgres =>
    if op.isBitwise then
      "(" ++ t.column column ++ " " ++ op.sql ++ " " ++ value.sql ++ ")::bool"
    else
      t.column column ++ (if op.isLike then "::text " else " ") ++ op.sql ++ " " ++ value.sql
  | .sqlServer =>
    if op.isBitwise then
      "(" ++ t.column column ++ " " ++ op.sql ++ " " ++ value.sql ++ ") != 0"
    else
      t.column column ++ " " ++ op.sql ++ " " ++ value.sql
  | .mysql | .sqlite => t.column column ++ " " ++ op.sql ++ " " ++ value.sql

/-- A column among values. Nothing is among no values. -/
def membership (t : Target) (column : String) (values : List Operand) (negated : Bool) : Sql :=
  if values.isEmpty then
    if negated then "1 = 1" else "0 = 1"
  else
    match t.dialect with
    | .postgres =>
      t.column column ++ (if negated then " <> ALL(ARRAY[" else " = ANY(ARRAY[") ++ parameters values ++ "])"
    | .mysql | .sqlite | .sqlServer =>
      t.column column ++ " " ++ notWord negated ++ "IN (" ++ parameters values ++ ")"

def strftimeFormat : DatePart → String
  | .date => "%Y-%m-%d"
  | .time => "%H:%M:%S"
  | .day => "%d"
  | .month => "%m"
  | .year => "%Y"

def datePart (t : Target) (column : String) (part : DatePart) : String :=
  match t.dialect, part with
  | .mysql, _ | .sqlServer, .day | .sqlServer, .month | .sqlServer, .year =>
    part.function ++ "(" ++ t.column column ++ ")"
  | .sqlServer, .date | .sqlServer, .time => "CAST(" ++ t.column column ++ " AS " ++ part.function ++ ")"
  | .sqlite, _ => "STRFTIME('" ++ strftimeFormat part ++ "', " ++ t.column column ++ ")"
  | .postgres, .date | .postgres, .time => t.column column ++ "::" ++ part.name
  | .postgres, _ => "EXTRACT(" ++ part.function ++ " FROM " ++ t.column column ++ ")"

def datePartComparison (t : Target) (column : String) (part : DatePart) (op : Operator) (value : Operand) : Sql :=
  match t.dialect with
  | .sqlite => t.datePart column part ++ " " ++ op.sql ++ " CAST(" ++ value.sql ++ " AS TEXT)"
  | _ => t.datePart column part ++ " " ++ op.sql ++ " " ++ value.sql

def jsonArguments (t : Target) (field : String) (path : List String) : String :=
  if path.isEmpty then t.dotted field else t.dotted field ++ ", " ++ jsonPath path

def jsonDocument (t : Target) (field : String) (path : List String) : String :=
  t.dotted field ++ String.join (path.map fun step => "->" ++ postgresStep step)

def jsonContains (t : Target) (column : String) (document : Json) : Except Error Sql :=
  let (field, path) := Text.fieldAndPath column
  let value := Sql.param (.json document)
  match t.dialect with
  | .postgres => .ok ("(" ++ t.jsonDocument field path ++ ")::jsonb @> " ++ value)
  | .mysql =>
    if path.isEmpty then .ok ("JSON_CONTAINS(" ++ t.dotted field ++ ", " ++ value ++ ")")
    else .ok ("JSON_CONTAINS(" ++ t.dotted field ++ ", " ++ value ++ ", " ++ jsonPath path ++ ")")
  | .sqlServer =>
    .ok (value ++ " IN (SELECT " ++ t.dialect.quoteName "value" ++ " FROM OPENJSON(" ++
      t.jsonArguments field path ++ "))")
  | .sqlite => t.unsupported .jsonContainment

def jsonKey (column : String) (path : List String) : Except Error (List String × String) :=
  match path.getLast? with
  | some last => .ok (path.dropLast, last)
  | none => .error (.invalid (.noJsonKey column))

/-- The test for a key in a document of Postgres: an index is in an array that is long enough. -/
def postgresHasKey (parent key : String) : String :=
  match Decimal.int64? (Text.unbracket key) with
  | some index =>
    "CASE WHEN JSONB_TYPEOF((" ++ parent ++ ")::jsonb) = 'array' THEN JSONB_ARRAY_LENGTH((" ++ parent ++
      ")::jsonb) >= " ++ toString (lengthFor index) ++ " ELSE FALSE END"
  | none => "COALESCE(JSONB_EXISTS((" ++ parent ++ ")::jsonb, " ++ quoteText key ++ "), FALSE)"

def jsonHasKey (t : Target) (column : String) : Except Error String := do
  let (field, path) := Text.fieldAndPath column
  let (parent, key) ← jsonKey column path
  match t.dialect with
  | .postgres => return postgresHasKey (t.jsonDocument field parent) key
  | .mysql => return "IFNULL(JSON_CONTAINS_PATH(" ++ t.dotted field ++ ", 'one', " ++ jsonPath path ++ "), 0)"
  | .sqlite => return "JSON_TYPE(" ++ t.dotted field ++ ", " ++ jsonPath path ++ ") IS NOT NULL"
  | .sqlServer =>
    return quoteText (Text.unbracket key) ++ " IN (SELECT " ++ t.dialect.quoteName "key" ++ " FROM OPENJSON(" ++
      t.jsonArguments field parent ++ "))"

def jsonLength (t : Target) (column : String) : String :=
  let (field, path) := Text.fieldAndPath column
  match t.dialect with
  | .postgres => "JSONB_ARRAY_LENGTH((" ++ t.jsonDocument field path ++ ")::jsonb)"
  | .mysql => "JSON_LENGTH(" ++ t.jsonArguments field path ++ ")"
  | .sqlite => "JSON_ARRAY_LENGTH(" ++ t.jsonArguments field path ++ ")"
  | .sqlServer => "(SELECT COUNT(*) FROM OPENJSON(" ++ t.jsonArguments field path ++ "))"

def mysqlSearchMode (t : Target) (options : FullTextOptions) : Except Error String :=
  match options.mode with
  | .natural =>
    .ok (if options.expanded then "IN NATURAL LANGUAGE MODE WITH QUERY EXPANSION" else "IN NATURAL LANGUAGE MODE")
  | .boolean => .ok "IN BOOLEAN MODE"
  | .phrase | .websearch => t.unsupported (.fullTextMode options.mode)

def postgresSearchFunction : FullTextMode → String
  | .natural => "PLAINTO_TSQUERY"
  | .boolean => "TO_TSQUERY"
  | .phrase => "PHRASETO_TSQUERY"
  | .websearch => "WEBSEARCH_TO_TSQUERY"

def fullText (t : Target) (columns : List String) (terms : String) (options : FullTextOptions) :
    Except Error Sql :=
  let value := Sql.param (.text terms)
  match t.dialect with
  | .mysql => do
    let mode ← t.mysqlSearchMode options
    return "MATCH (" ++ t.columns columns ++ ") AGAINST (" ++ value ++ " " ++ mode ++ ")"
  | .postgres =>
    let language := quoteText (options.language.getD "english")
    let vectors := columns.map fun c => "TO_TSVECTOR(" ++ language ++ ", " ++ t.column c ++ ")"
    .ok ("(" ++ " || ".intercalate vectors ++ ") @@ " ++ postgresSearchFunction options.mode ++ "(" ++ language ++
      ", " ++ value ++ ")")
  | .sqlite | .sqlServer => t.unsupported .fullTextSearch

end Target

end SqlCompiler
