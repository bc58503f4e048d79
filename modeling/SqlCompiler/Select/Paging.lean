import SqlCompiler.Identifier
import SqlCompiler.Query.Basic

namespace SqlCompiler

def anyOrder : String := "ORDER BY (SELECT 0)"

namespace Target

def randomOrder (t : Target) (seed : Option UInt64) : String :=
  match t.dialect with
  | .postgres | .sqlite => "RANDOM()"
  | .mysql =>
    match seed with
    | none => "RAND()"
    | some n => "RAND(" ++ toString n.toNat ++ ")"
  | .sqlServer => "NEWID()"

def order (t : Target) : Order → Sql
  | .column name direction => t.column name ++ " " ++ direction.sql
  | .raw sql values => .raw sql values
  | .random seed => t.randomOrder seed

def orderBy (t : Target) (orders : List Order) : Sql :=
  if orders.isEmpty then .empty else "ORDER BY " ++ Sql.join ", " (orders.map t.order)

def queryOrder (t : Target) (q : Query) : Sql :=
  if t.dialect = .sqlServer ∧ q.orders.isEmpty ∧ q.offset.isSome then anyOrder else t.orderBy q.orders

def limitWord (n : UInt64) : String := "LIMIT " ++ toString n.toNat

def offsetWord (n : UInt64) : String := "OFFSET " ++ toString n.toNat

/-- The limit to write where only an offset is wanted. -/
def unlimited (t : Target) : List String :=
  match t.dialect with
  | .mysql => ["LIMIT 18446744073709551615"]
  | .sqlite => ["LIMIT -1"]
  | .postgres | .sqlServer => []

def limitAndOffset (t : Target) (limit offset : Option UInt64) : List String :=
  match limit, offset with
  | none, none => []
  | some n, none => [limitWord n]
  | none, some m => t.unlimited ++ [offsetWord m]
  | some n, some m => [limitWord n, offsetWord m]

def offsetAndFetch (limit : Option UInt64) (offset : UInt64) : List String :=
  let skipped := "OFFSET " ++ toString offset.toNat ++ " ROWS"
  match limit with
  | none => [skipped]
  | some n => [skipped, "FETCH NEXT " ++ toString n.toNat ++ " ROWS ONLY"]

/-- The limit and the offset of a query's own rows. SQL Server writes a limit without an offset after `SELECT`. -/
def queryPaging (t : Target) (q : Query) : List String :=
  match t.dialect with
  | .sqlServer =>
    match q.offset with
    | none => []
    | some m => offsetAndFetch q.limit m
  | _ => t.limitAndOffset q.limit q.offset

def unionPaging (t : Target) (q : Query) : List String :=
  match t.dialect with
  | .sqlServer =>
    if q.unionLimit.isNone ∧ q.unionOffset.isNone then []
    else (if q.unionOrders.isEmpty then [anyOrder] else []) ++ offsetAndFetch q.unionLimit (q.unionOffset.getD 0)
  | _ => t.limitAndOffset q.unionLimit q.unionOffset

end Target

end SqlCompiler
