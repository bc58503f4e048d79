import SqlCompiler.Dialect

namespace SqlCompiler

namespace Text

def afterAs? : List Char → Option (List Char)
  | ' ' :: a :: s :: ' ' :: rest => if a.toLower = 'a' ∧ s.toLower = 's' then some rest else none
  | _ => none

def cutAlias : List Char → Option (List Char × List Char)
  | [] => none
  | c :: cs =>
    match afterAs? (c :: cs) with
    | some label => some ([], label)
    | none => (cutAlias cs).map fun (name, label) => (c :: name, label)

def splitAlias (s : String) : Option (String × String) :=
  (cutAlias s.toList).map fun (name, label) => (String.ofList (trim name), String.ofList (trim label))

def splitArrows : List Char → List (List Char)
  | [] => [[]]
  | [c] => [[c]]
  | c :: d :: cs =>
    if c = '-' ∧ d = '>' then
      [] :: splitArrows cs
    else
      match splitArrows (d :: cs) with
      | [] => [[c]]
      | part :: parts => (c :: part) :: parts

def hasArrow (s : String) : Bool := contains s "->"

/-- The column of a selector and the steps from there into its document; empty steps do not count. -/
def fieldAndPath (s : String) : String × List String :=
  match splitArrows s.toList with
  | [] => ("", [])
  | field :: path => (String.ofList field, (path.filter (· ≠ [])).map String.ofList)

end Text

def aliasOf (table : String) : String :=
  match Text.splitAlias table with
  | some (_, label) => label
  | none => table

namespace Dialect

def quoteName (d : Dialect) (name : String) : String :=
  if name = "*" then name
  else String.ofList (d.openQuote :: Text.double d.closeQuote name.toList ++ [d.closeQuote])

end Dialect

def quoteText (s : String) : String :=
  String.ofList ('\x27' :: Text.double '\x27' s.toList ++ ['\x27'])

/-- The key and the index of a step: an index is a suffix in square brackets. -/
def splitIndex (step : List Char) : List Char × List Char :=
  if step.contains '[' ∧ step.getLast? = some ']' then
    (step.takeWhile (· ≠ '['), step.dropWhile (· ≠ '['))
  else
    (step, [])

def escapeKey (c : Char) : List Char :=
  if c = '\x27' then ['\x27', '\x27']
  else if c = '\x22' then ['\\', '\x22']
  else [c]

def pathStep (step : String) : List Char :=
  let (key, index) := splitIndex step.toList
  (if key = [] then [] else ['.', '\x22'] ++ key.flatMap escapeKey ++ ['\x22']) ++ index

def jsonPath (path : List String) : String :=
  String.ofList (['\x27', '$'] ++ path.flatMap pathStep ++ ['\x27'])

namespace Target

def plainTable (t : Target) (name : String) : String :=
  match Text.splitLast '.' name.toList with
  | some (schema, name) =>
    t.dialect.quoteName (String.ofList schema) ++ "." ++
      t.dialect.quoteName (t.tablePrefix ++ String.ofList name)
  | none => t.dialect.quoteName (t.tablePrefix ++ name)

def table (t : Target) (name : String) : String :=
  match Text.splitAlias name with
  | some (name, label) => t.plainTable name ++ " AS " ++ t.dialect.quoteName (t.tablePrefix ++ label)
  | none => t.plainTable name

/-- A dotted name; the first of two parts names a table. -/
def dotted (t : Target) (name : String) : String :=
  match Text.parts '.' name with
  | [table, column] => t.table table ++ "." ++ t.dialect.quoteName column
  | parts => ".".intercalate (parts.map t.dialect.quoteName)

def postgresStep (step : String) : String :=
  if step ≠ "" ∧ step.toList.all Decimal.isDigit then step else quoteText step

/-- Steps of which the last one yields text. -/
def postgresSteps : List String → String
  | [] => ""
  | [step] => "->>" ++ postgresStep step
  | step :: next :: rest => "->" ++ postgresStep step ++ postgresSteps (next :: rest)

def jsonColumn (t : Target) (name : String) : String :=
  let (field, path) := Text.fieldAndPath name
  match t.dialect with
  | .mysql => "JSON_UNQUOTE(JSON_EXTRACT(" ++ t.dotted field ++ ", " ++ jsonPath path ++ "))"
  | .sqlite => "JSON_EXTRACT(" ++ t.dotted field ++ ", " ++ jsonPath path ++ ")"
  | .sqlServer => "JSON_VALUE(" ++ t.dotted field ++ ", " ++ jsonPath path ++ ")"
  | .postgres => t.dotted field ++ postgresSteps path

def plainColumn (t : Target) (name : String) : String :=
  if Text.hasArrow name then t.jsonColumn name else t.dotted name

def column (t : Target) (name : String) : String :=
  match Text.splitAlias name with
  | some (name, label) => t.plainColumn name ++ " AS " ++ t.dialect.quoteName label
  | none => t.plainColumn name

def columns (t : Target) (names : List String) : String := ", ".intercalate (names.map t.column)

end Target

end SqlCompiler
