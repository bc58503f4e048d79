import SqlCompiler.Schema.Table

namespace SqlCompiler

namespace Target

def addPrimaryKey (t : Target) (b : Blueprint) (i : TableIndex) : Except Error (List String) :=
  match t.dialect with
  | .postgres => .ok [t.alter b ("ADD PRIMARY KEY (" ++ t.columns i.columns ++ ")")]
  | .mysql =>
    if b.isCreating then .ok []
    else .ok [t.alter b ("ADD PRIMARY KEY" ++ usingWords i ++ " (" ++ t.columns i.columns ++ ")")]
  | .sqlite => if b.isCreating then .ok [] else t.unsupported .addingPrimaryKey
  | .sqlServer =>
    .ok [t.alter b ("ADD CONSTRAINT " ++ t.column i.name ++ " PRIMARY KEY (" ++ t.columns i.columns ++ ")")]

def createIndex (t : Target) (b : Blueprint) (kind using_ : String) (i : TableIndex) : String :=
  "CREATE " ++ kind ++ "INDEX " ++ t.column i.name ++ " ON " ++ t.tableOf b ++ using_ ++ " (" ++
    t.columns i.columns ++ ")"

def mysqlIndex (t : Target) (b : Blueprint) (kind : String) (i : TableIndex) : String :=
  t.alter b ("ADD " ++ kind ++ " " ++ t.column i.name ++ usingWords i ++ " (" ++ t.columns i.columns ++ ")")

def addUnique (t : Target) (b : Blueprint) (i : TableIndex) : String :=
  match t.dialect with
  | .postgres =>
    if i.algorithm.isSome then t.createIndex b "UNIQUE " (usingWords i) i
    else t.alter b ("ADD CONSTRAINT " ++ t.column i.name ++ " UNIQUE (" ++ t.columns i.columns ++ ")")
  | .mysql => t.mysqlIndex b "UNIQUE" i
  | .sqlite | .sqlServer => t.createIndex b "UNIQUE " "" i

def addPlainIndex (t : Target) (b : Blueprint) (i : TableIndex) : String :=
  match t.dialect with
  | .postgres => t.createIndex b "" (usingWords i) i
  | .mysql => t.mysqlIndex b "INDEX" i
  | .sqlite | .sqlServer => t.createIndex b "" "" i

def addFullTextIndex (t : Target) (b : Blueprint) (i : TableIndex) : Except Error (List String) :=
  match t.dialect with
  | .postgres => do
    let language ← t.quote (i.language.getD "english")
    let vectors := i.columns.map fun c => "TO_TSVECTOR(" ++ language ++ ", " ++ t.column c ++ ")"
    return ["CREATE INDEX " ++ t.column i.name ++ " ON " ++ t.tableOf b ++ " USING GIN ((" ++
      " || ".intercalate vectors ++ "))"]
  | .mysql => .ok [t.mysqlIndex b "FULLTEXT" i]
  | .sqlite | .sqlServer => t.unsupported .fullTextIndexes

def addSpatialIndex (t : Target) (b : Blueprint) (i : TableIndex) : Except Error (List String) :=
  match t.dialect with
  | .postgres => .ok [t.createIndex b "" " USING GIST" i]
  | .mysql => .ok [t.mysqlIndex b "SPATIAL INDEX" i]
  | .sqlServer => .ok [t.createIndex b "SPATIAL " "" i]
  | .sqlite => t.unsupported .spatialIndexes

def addIndex (t : Target) (b : Blueprint) (kind : IndexKind) (i : TableIndex) : Except Error (List String) :=
  match kind with
  | .primary => t.addPrimaryKey b i
  | .unique => .ok [t.addUnique b i]
  | .plain => .ok [t.addPlainIndex b i]
  | .fullText => t.addFullTextIndex b i
  | .spatial => t.addSpatialIndex b i

def checkWords (k : ForeignKey) : String :=
  (match k.deferrable with
    | none => ""
    | some true => " DEFERRABLE"
    | some false => " NOT DEFERRABLE") ++
  (match k.deferrable, k.initiallyImmediate with
    | some true, some true => " INITIALLY IMMEDIATE"
    | some true, some false => " INITIALLY DEFERRED"
    | _, _ => "") ++
  wordsIf k.notValid " NOT VALID"

def addForeignKey (t : Target) (b : Blueprint) (k : ForeignKey) : Except Error (List String) :=
  let adding := t.alter b ("ADD CONSTRAINT " ++ t.column k.name ++ " " ++ t.foreignKeyClause k)
  match t.dialect with
  | .postgres => .ok [adding ++ checkWords k]
  | .mysql | .sqlServer => .ok [adding]
  | .sqlite => if b.isCreating then .ok [] else t.unsupported .addingForeignKey

def dropConstraint (t : Target) (b : Blueprint) (name : String) : String :=
  t.alter b ("DROP CONSTRAINT " ++ t.column name)

def postgresPrimaryKey (t : Target) (b : Blueprint) : String := t.tablePrefix ++ Text.lastPart '.' b.table ++ "_pkey"

def dropPrimaryKey (t : Target) (b : Blueprint) (name : String) : Except Error (List String) :=
  match t.dialect with
  | .postgres => .ok [t.dropConstraint b (if name = "" then t.postgresPrimaryKey b else name)]
  | .mysql => .ok [t.alter b "DROP PRIMARY KEY"]
  | .sqlite => t.unsupported .droppingPrimaryKey
  | .sqlServer => if name = "" then .error (.invalid .unnamedPrimaryKey) else .ok [t.dropConstraint b name]

def dropIndex (t : Target) (b : Blueprint) (name : String) : String :=
  match t.dialect with
  | .postgres | .sqlite => "DROP INDEX " ++ t.column name
  | .mysql => t.alter b ("DROP INDEX " ++ t.column name)
  | .sqlServer => "DROP INDEX " ++ t.column name ++ " ON " ++ t.tableOf b

def dropUnique (t : Target) (b : Blueprint) (name : String) : String :=
  match t.dialect with
  | .postgres => t.dropConstraint b name
  | .mysql | .sqlite | .sqlServer => t.dropIndex b name

def dropFullTextIndex (t : Target) (b : Blueprint) (name : String) : Except Error (List String) :=
  match t.dialect with
  | .postgres | .mysql => .ok [t.dropIndex b name]
  | .sqlite | .sqlServer => t.unsupported .fullTextIndexes

def dropSpatialIndex (t : Target) (b : Blueprint) (name : String) : Except Error (List String) :=
  match t.dialect with
  | .postgres | .mysql | .sqlServer => .ok [t.dropIndex b name]
  | .sqlite => t.unsupported .spatialIndexes

def dropForeignKey (t : Target) (b : Blueprint) (name : String) : Except Error (List String) :=
  match t.dialect with
  | .postgres | .sqlServer => .ok [t.dropConstraint b name]
  | .mysql => .ok [t.alter b ("DROP FOREIGN KEY " ++ t.column name)]
  | .sqlite => t.unsupported .droppingForeignKey

def renameIndex (t : Target) (b : Blueprint) (old new : String) : Except Error (List String) :=
  match t.dialect with
  | .postgres => .ok ["ALTER INDEX " ++ t.column old ++ " RENAME TO " ++ t.column new]
  | .mysql => .ok [t.alter b ("RENAME INDEX " ++ t.column old ++ " TO " ++ t.column new)]
  | .sqlServer => t.renamePart b old new "INDEX"
  | .sqlite => t.unsupported .renamingIndexes

end Target

end SqlCompiler
