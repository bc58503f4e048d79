import SqlCompiler.Error
import SqlCompiler.Text.Split
import SqlCompiler.Version

namespace SqlCompiler

inductive Product
  | postgres
  | mysql
  | mariadb
  | sqlite
  | sqlServer
deriving DecidableEq

/-- The four languages that statements are written in. MariaDB speaks the language of MySQL. -/
inductive Dialect
  | postgres
  | mysql
  | sqlite
  | sqlServer
deriving DecidableEq

namespace Product

def name : Product → String
  | .postgres => "postgres"
  | .mysql => "mysql"
  | .mariadb => "mariadb"
  | .sqlite => "sqlite"
  | .sqlServer => "sqlsrv"

def dialect : Product → Dialect
  | .postgres => .postgres
  | .mysql | .mariadb => .mysql
  | .sqlite => .sqlite
  | .sqlServer => .sqlServer

def ofText (s : String) : Except Error Product :=
  let name := Text.lowerAscii (Text.strip s)
  if name ∈ ["postgres", "postgresql", "pgsql"] then .ok .postgres
  else if name = "mysql" then .ok .mysql
  else if name = "mariadb" then .ok .mariadb
  else if name ∈ ["sqlite", "sqlite3"] then .ok .sqlite
  else if name ∈ ["sqlsrv", "sqlserver", "mssql"] then .ok .sqlServer
  else .error (.invalid (.unknownProduct name))

end Product

namespace Dialect

def name : Dialect → String
  | .postgres => "postgres"
  | .mysql => "mysql"
  | .sqlite => "sqlite"
  | .sqlServer => "sqlsrv"

def openQuote : Dialect → Char
  | .postgres | .sqlite => '\x22'
  | .mysql => '\x60'
  | .sqlServer => '['

def closeQuote : Dialect → Char
  | .postgres | .sqlite => '\x22'
  | .mysql => '\x60'
  | .sqlServer => ']'

/-- Within a text literal a backslash takes the next character as it stands. -/
def hasBackslashEscapes : Dialect → Bool
  | .mysql => true
  | _ => false

def operators : Dialect → List Operator
  | .mysql =>
    [.eq, .notEq, .lt, .ltEq, .gt, .gtEq, .like, .notLike, .bitAnd, .bitOr, .bitXor, .shiftLeft, .shiftRight,
      .nullSafeEq, .likeBinary, .rLike, .notRLike, .regexp, .notRegexp]
  | .postgres =>
    [.eq, .notEq, .lt, .ltEq, .gt, .gtEq, .like, .notLike, .bitAnd, .bitOr, .shiftLeft, .shiftRight, .iLike,
      .notILike, .similarTo, .notSimilarTo, .match, .iMatch, .notMatch, .notIMatch, .contains, .containedBy,
      .overlaps]
  | .sqlite =>
    [.eq, .notEq, .lt, .ltEq, .gt, .gtEq, .like, .notLike, .bitAnd, .bitOr, .shiftLeft, .shiftRight, .glob]
  | .sqlServer =>
    [.eq, .notEq, .lt, .ltEq, .gt, .gtEq, .like, .notLike, .bitAnd, .bitOr, .bitXor]

end Dialect

/-- What statements are compiled for. An unknown version counts as a new one. -/
structure Target where
  dialect : Dialect
  version : Option Version := none
  tablePrefix : String := ""
  schema : Option String := none
  charset : Option String := none
  collation : Option String := none
  engine : Option String := none
deriving DecidableEq

namespace Target

def isMariadb (t : Target) : Bool := t.version.any (·.mariadb)

def olderThan (t : Target) (major minor patch : UInt32) : Bool :=
  t.version.any fun v => !v.atLeast major minor patch

def name (t : Target) : String :=
  if t.dialect = .mysql ∧ t.isMariadb then "mariadb" else t.dialect.name

def unsupported {α : Type} (t : Target) (feature : Feature) : Except Error α :=
  .error (.unsupported t.name feature)

def check (t : Target) (op : Operator) : Except Error Unit :=
  if op ∈ t.dialect.operators then .ok () else t.unsupported (.operator op)

def hasLateralJoins (t : Target) : Bool :=
  match t.dialect with
  | .postgres | .sqlServer => true
  | .mysql => !t.isMariadb && !t.olderThan 8 0 14
  | .sqlite => false

def namesInsertedRow (t : Target) : Bool := !t.isMariadb && !t.olderThan 8 0 19

def numbersRows (t : Target) : Bool :=
  t.dialect ≠ .mysql || t.isMariadb || !t.olderThan 8 0 11

end Target

end SqlCompiler
