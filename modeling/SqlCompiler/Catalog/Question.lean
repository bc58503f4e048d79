import SqlCompiler.Schema.Table

namespace SqlCompiler

namespace Target

def mysqlTables (schema : String) : String :=
  "SELECT table_name AS `name`, table_schema AS `schema`, (data_length + index_length) AS `size`, " ++
    "table_comment AS `comment`, engine AS `engine`, table_collation AS `collation` FROM " ++
    "information_schema.tables WHERE table_schema = " ++ schema ++
    " AND table_type IN ('BASE TABLE', 'SYSTEM VERSIONED') ORDER BY table_name"

def mysqlViews (schema : String) : String :=
  "SELECT table_name AS `name`, table_schema AS `schema`, view_definition AS `definition` FROM " ++
    "information_schema.views WHERE table_schema = " ++ schema ++ " ORDER BY table_name"

def mysqlColumns (schema table : String) : String :=
  "SELECT column_name AS `name`, data_type AS `type_name`, column_type AS `type`, collation_name AS " ++
    "`collation`, is_nullable AS `nullable`, column_default AS `default`, column_comment AS `comment`, " ++
    "generation_expression AS `expression`, extra AS `extra` FROM information_schema.columns WHERE " ++
    "table_schema = " ++ schema ++ " AND table_name = " ++ table ++ " ORDER BY ordinal_position ASC"

def mysqlIndexes (schema table : String) : String :=
  "SELECT index_name AS `name`, GROUP_CONCAT(column_name ORDER BY seq_in_index) AS `columns`, " ++
    "index_type AS `type`, NOT non_unique AS `unique` FROM information_schema.statistics WHERE " ++
    "table_schema = " ++ schema ++ " AND table_name = " ++ table ++
    " GROUP BY index_name, index_type, non_unique"

def mysqlForeignKeys (schema table : String) : String :=
  "SELECT kc.constraint_name AS `name`, GROUP_CONCAT(kc.column_name ORDER BY kc.ordinal_position) AS " ++
    "`columns`, kc.referenced_table_schema AS `foreign_schema`, kc.referenced_table_name AS " ++
    "`foreign_table`, GROUP_CONCAT(kc.referenced_column_name ORDER BY kc.ordinal_position) AS " ++
    "`foreign_columns`, rc.update_rule AS `on_update`, rc.delete_rule AS `on_delete` FROM " ++
    "information_schema.key_column_usage kc JOIN information_schema.referential_constraints rc ON " ++
    "kc.constraint_schema = rc.constraint_schema AND kc.constraint_name = rc.constraint_name WHERE " ++
    "kc.table_schema = " ++ schema ++ " AND kc.table_name = " ++ table ++
    " AND kc.referenced_table_name IS NOT NULL GROUP BY kc.constraint_name, " ++
    "kc.referenced_table_schema, kc.referenced_table_name, rc.update_rule, rc.delete_rule"

def postgresTables (schema : String) : String :=
  "SELECT c.relname AS name, n.nspname AS schema, pg_total_relation_size(c.oid) AS size, " ++
    "obj_description(c.oid, 'pg_class') AS comment FROM pg_class c, pg_namespace n WHERE c.relkind IN " ++
    "('r', 'p') AND n.oid = c.relnamespace AND n.nspname = " ++ schema ++ " ORDER BY c.relname"

def postgresViews (schema : String) : String :=
  "SELECT viewname AS name, schemaname AS schema, definition FROM pg_views WHERE schemaname = " ++ schema ++
    " ORDER BY viewname"

def postgresColumns (schema table : String) : String :=
  "SELECT a.attname AS name, t.typname AS type_name, format_type(a.atttypid, a.atttypmod) AS type, " ++
    "(SELECT tc.collcollate FROM pg_catalog.pg_collation tc WHERE tc.oid = a.attcollation) AS " ++
    "\"collation\", NOT a.attnotnull AS nullable, (SELECT pg_get_expr(adbin, adrelid) FROM pg_attrdef " ++
    "WHERE c.oid = pg_attrdef.adrelid AND pg_attrdef.adnum = a.attnum) AS \"default\", " ++
    "col_description(c.oid, a.attnum) AS comment, a.attidentity IN ('a', 'd') AS identity, " ++
    "a.attgenerated AS generated FROM pg_attribute a, pg_class c, pg_type t, pg_namespace n WHERE " ++
    "c.relname = " ++ table ++ " AND n.nspname = " ++ schema ++
    " AND a.attnum > 0 AND NOT a.attisdropped AND a.attrelid = c.oid AND a.atttypid = t.oid AND n.oid " ++
    "= c.relnamespace ORDER BY a.attnum"

def postgresIndexes (schema table : String) : String :=
  "SELECT ic.relname AS name, string_agg(a.attname, ',' ORDER BY indseq.ord) AS columns, am.amname " ++
    "AS type, i.indisunique AS \"unique\", i.indisprimary AS \"primary\" FROM pg_index i JOIN pg_class tc " ++
    "ON tc.oid = i.indrelid JOIN pg_namespace tn ON tn.oid = tc.relnamespace JOIN pg_class ic ON " ++
    "ic.oid = i.indexrelid JOIN pg_am am ON am.oid = ic.relam JOIN LATERAL unnest(i.indkey) WITH " ++
    "ORDINALITY AS indseq(num, ord) ON TRUE LEFT JOIN pg_attribute a ON a.attrelid = i.indrelid AND " ++
    "a.attnum = indseq.num WHERE tc.relname = " ++ table ++ " AND tn.nspname = " ++ schema ++
    " GROUP BY ic.relname, am.amname, i.indisunique, i.indisprimary"

def postgresForeignKeys (schema table : String) : String :=
  "SELECT c.conname AS name, string_agg(la.attname, ',' ORDER BY conseq.ord) AS columns, fn.nspname " ++
    "AS foreign_schema, fc.relname AS foreign_table, string_agg(fa.attname, ',' ORDER BY conseq.ord) " ++
    "AS foreign_columns, c.confupdtype AS on_update, c.confdeltype AS on_delete FROM pg_constraint c " ++
    "JOIN pg_class tc ON c.conrelid = tc.oid JOIN pg_namespace tn ON tn.oid = tc.relnamespace JOIN " ++
    "pg_class fc ON c.confrelid = fc.oid JOIN pg_namespace fn ON fn.oid = fc.relnamespace JOIN LATERAL " ++
    "unnest(c.conkey) WITH ORDINALITY AS conseq(num, ord) ON TRUE JOIN pg_attribute la ON la.attrelid " ++
    "= c.conrelid AND la.attnum = conseq.num JOIN pg_attribute fa ON fa.attrelid = c.confrelid AND " ++
    "fa.attnum = c.confkey[conseq.ord] WHERE c.contype = 'f' AND tc.relname = " ++ table ++
    " AND tn.nspname = " ++ schema ++
    " GROUP BY c.conname, fn.nspname, fc.relname, c.confupdtype, c.confdeltype"

def sqlServerTables (schema : String) : String :=
  "SELECT t.name AS name, SCHEMA_NAME(t.schema_id) AS [schema], SUM(u.total_pages) * 8 * 1024 AS " ++
    "size FROM sys.tables AS t JOIN sys.partitions AS p ON p.object_id = t.object_id JOIN " ++
    "sys.allocation_units AS u ON u.container_id = p.hobt_id WHERE SCHEMA_NAME(t.schema_id) = " ++ schema ++
    " GROUP BY t.name, t.schema_id ORDER BY t.name"

def sqlServerViews (schema : String) : String :=
  "SELECT v.name AS name, SCHEMA_NAME(v.schema_id) AS [schema], m.definition AS definition FROM " ++
    "sys.views AS v JOIN sys.sql_modules AS m ON v.object_id = m.object_id WHERE " ++
    "SCHEMA_NAME(v.schema_id) = " ++ schema ++ " ORDER BY v.name"

def sqlServerColumns (schema table : String) : String :=
  "SELECT col.name AS name, type.name AS type_name, col.max_length AS length, col.precision AS " ++
    "precision, col.scale AS places, col.is_nullable AS nullable, def.definition AS [default], " ++
    "col.is_identity AS autoincrement, col.collation_name AS collation, com.definition AS " ++
    "[expression], com.is_persisted AS [persisted], CAST(prop.value AS NVARCHAR(MAX)) AS comment FROM " ++
    "sys.columns AS col JOIN sys.types AS type ON col.user_type_id = type.user_type_id JOIN " ++
    "sys.objects AS obj ON col.object_id = obj.object_id JOIN sys.schemas AS scm ON obj.schema_id = " ++
    "scm.schema_id LEFT JOIN sys.default_constraints def ON col.default_object_id = def.object_id AND " ++
    "col.object_id = def.parent_object_id LEFT JOIN sys.extended_properties AS prop ON obj.object_id = " ++
    "prop.major_id AND col.column_id = prop.minor_id AND prop.name = 'MS_Description' LEFT JOIN " ++
    "sys.computed_columns AS com ON col.column_id = com.column_id AND col.object_id = com.object_id " ++
    "WHERE obj.type IN ('U', 'V') AND obj.name = " ++ table ++ " AND scm.name = " ++ schema ++
    " ORDER BY col.column_id"

def sqlServerIndexes (schema table : String) : String :=
  "SELECT idx.name AS name, STRING_AGG(col.name, ',') WITHIN GROUP (ORDER BY idxcol.key_ordinal) AS " ++
    "columns, idx.type_desc AS [type], idx.is_unique AS [unique], idx.is_primary_key AS [primary] FROM " ++
    "sys.indexes AS idx JOIN sys.tables AS tbl ON idx.object_id = tbl.object_id JOIN sys.schemas AS " ++
    "scm ON tbl.schema_id = scm.schema_id JOIN sys.index_columns AS idxcol ON idx.object_id = " ++
    "idxcol.object_id AND idx.index_id = idxcol.index_id JOIN sys.columns AS col ON idxcol.object_id = " ++
    "col.object_id AND idxcol.column_id = col.column_id WHERE tbl.name = " ++ table ++ " AND scm.name = " ++
    schema ++ " GROUP BY idx.name, idx.type_desc, idx.is_unique, idx.is_primary_key"

def sqlServerForeignKeys (schema table : String) : String :=
  "SELECT fk.name AS name, STRING_AGG(lc.name, ',') WITHIN GROUP (ORDER BY fkc.constraint_column_id) " ++
    "AS columns, fs.name AS foreign_schema, ft.name AS foreign_table, STRING_AGG(fc.name, ',') WITHIN " ++
    "GROUP (ORDER BY fkc.constraint_column_id) AS foreign_columns, fk.update_referential_action_desc " ++
    "AS on_update, fk.delete_referential_action_desc AS on_delete FROM sys.foreign_keys AS fk JOIN " ++
    "sys.foreign_key_columns AS fkc ON fkc.constraint_object_id = fk.object_id JOIN sys.tables AS lt " ++
    "ON lt.object_id = fk.parent_object_id JOIN sys.schemas AS ls ON lt.schema_id = ls.schema_id JOIN " ++
    "sys.columns AS lc ON fkc.parent_object_id = lc.object_id AND fkc.parent_column_id = lc.column_id " ++
    "JOIN sys.tables AS ft ON ft.object_id = fk.referenced_object_id JOIN sys.schemas AS fs ON " ++
    "ft.schema_id = fs.schema_id JOIN sys.columns AS fc ON fkc.referenced_object_id = fc.object_id AND " ++
    "fkc.referenced_column_id = fc.column_id WHERE lt.name = " ++ table ++ " AND ls.name = " ++ schema ++
    " GROUP BY fk.name, fs.name, ft.name, fk.update_referential_action_desc, " ++
    "fk.delete_referential_action_desc"

def sqliteTables (filter : String) : String :=
  "SELECT tl.name AS name, tl.schema AS schema FROM pragma_table_list AS tl WHERE tl.type IN " ++
    "('table', 'virtual') AND tl.name NOT LIKE 'sqlite\\_%' ESCAPE '\\'" ++ filter ++
    " ORDER BY tl.schema, tl.name"

def sqliteViews (schema literal : String) : String :=
  "SELECT name, " ++ literal ++ " AS schema, sql AS definition FROM " ++ schema ++
    ".sqlite_master WHERE type = 'view' ORDER BY name"

def sqliteColumns (arguments : String) : String :=
  "SELECT name, type, NOT \"notnull\" AS \"nullable\", dflt_value AS \"default\", pk AS \"primary\", hidden " ++
    "AS \"extra\" FROM pragma_table_xinfo(" ++ arguments ++ ") ORDER BY cid ASC"

def sqliteIndexes (arguments : String) : String :=
  "SELECT 'primary' AS name, group_concat(col) AS columns, 1 AS \"unique\", 1 AS \"primary\" FROM " ++
    "(SELECT name AS col FROM pragma_table_info(" ++ arguments ++
    ") WHERE pk > 0 ORDER BY pk, cid) GROUP BY name UNION SELECT name, group_concat(col) AS columns, " ++
    "\"unique\", origin = 'pk' AS \"primary\" FROM (SELECT il.*, ii.name AS col FROM pragma_index_list(" ++
    arguments ++
    ") il, pragma_index_info(il.name) ii ORDER BY il.seq, ii.seqno) GROUP BY name, \"unique\", \"primary\""

def sqliteForeignKeys (arguments : String) : String :=
  "SELECT group_concat(\"from\") AS columns, \"table\" AS foreign_table, group_concat(\"to\") AS " ++
    "foreign_columns, on_update, on_delete FROM (SELECT * FROM pragma_foreign_key_list(" ++ arguments ++
    ") ORDER BY id DESC, seq) GROUP BY id, \"table\", on_update, on_delete"

def catalogLiteral (t : Target) (s : String) : Except Error String :=
  if t.dialect = .sqlServer then t.wideLiteral s else t.quote s

def presentSchema : Dialect → String
  | .postgres => "CURRENT_SCHEMA()"
  | .mysql => "DATABASE()"
  | .sqlite => "main"
  | .sqlServer => "SCHEMA_NAME()"

/-- The schema that is asked about: the one that is named, else that of the configuration, else the present one. -/
def catalogSchema (t : Target) (schema : Option String) : Except Error String :=
  match schema <|> t.schema with
  | some name => t.catalogLiteral name
  | none => .ok (presentSchema t.dialect)

def schemaAndTable (schema : Option String) (table : String) : Option String × String :=
  match Text.splitFirst '.' table.toList with
  | some (name, rest) => (some (String.ofList name), String.ofList rest)
  | none => (schema, table)

def prefixed (t : Target) (table : String) : String := t.tablePrefix ++ table

/-- A question about a table, from literals of its schema and its name. MySQL takes a dotted name as it stands. -/
def askTable (t : Target) (schema : Option String) (table : String) (question : String → String → String) :
    Except Error String := do
  let (schema, table) := if t.dialect = .mysql then (schema, table) else schemaAndTable schema table
  let schema ← t.catalogSchema schema
  return question schema (← t.catalogLiteral (t.prefixed table))

def sqliteArguments (t : Target) (schema : Option String) (table : String) : Except Error String := do
  let (schema, table) := schemaAndTable (schema <|> t.schema) table
  return (← t.quote (t.prefixed table)) ++ (← t.quoted ", " schema)

def tablesQuery (t : Target) (schema : Option String) : Except Error String :=
  match t.dialect with
  | .postgres => do return postgresTables (← t.catalogSchema schema)
  | .mysql => do return mysqlTables (← t.catalogSchema schema)
  | .sqlServer => do return sqlServerTables (← t.catalogSchema schema)
  | .sqlite => do return sqliteTables (← t.quoted " AND tl.schema = " (schema <|> t.schema))

def viewsQuery (t : Target) (schema : Option String) : Except Error String :=
  match t.dialect with
  | .postgres => do return postgresViews (← t.catalogSchema schema)
  | .mysql => do return mysqlViews (← t.catalogSchema schema)
  | .sqlServer => do return sqlServerViews (← t.catalogSchema schema)
  | .sqlite => do
    let name := (schema <|> t.schema).getD (presentSchema .sqlite)
    return sqliteViews (t.column name) (← t.quote name)

def columnsQuery (t : Target) (schema : Option String) (table : String) : Except Error String :=
  match t.dialect with
  | .postgres => t.askTable schema table postgresColumns
  | .mysql => t.askTable schema table mysqlColumns
  | .sqlServer => t.askTable schema table sqlServerColumns
  | .sqlite => do return sqliteColumns (← t.sqliteArguments schema table)

def indexesQuery (t : Target) (schema : Option String) (table : String) : Except Error String :=
  match t.dialect with
  | .postgres => t.askTable schema table postgresIndexes
  | .mysql => t.askTable schema table mysqlIndexes
  | .sqlServer => t.askTable schema table sqlServerIndexes
  | .sqlite => do return sqliteIndexes (← t.sqliteArguments schema table)

def foreignKeysQuery (t : Target) (schema : Option String) (table : String) : Except Error String :=
  match t.dialect with
  | .postgres => t.askTable schema table postgresForeignKeys
  | .mysql => t.askTable schema table mysqlForeignKeys
  | .sqlServer => t.askTable schema table sqlServerForeignKeys
  | .sqlite => do return sqliteForeignKeys (← t.sqliteArguments schema table)

def createDatabase (t : Target) (name : String) : Except Error String :=
  match t.dialect with
  | .postgres | .sqlServer => .ok ("CREATE DATABASE " ++ t.column name)
  | .mysql =>
    .ok ("CREATE DATABASE " ++ t.column name ++ around " DEFAULT CHARACTER SET " (t.charset.map t.column) "" ++
      around " DEFAULT COLLATE " (t.collation.map t.column) "")
  | .sqlite => t.unsupported .creatingDatabases

def dropDatabaseIfExists (t : Target) (name : String) : Except Error String :=
  match t.dialect with
  | .postgres | .mysql | .sqlServer => .ok ("DROP DATABASE IF EXISTS " ++ t.column name)
  | .sqlite => t.unsupported .droppingDatabases

def enableForeignKeys (t : Target) : String :=
  match t.dialect with
  | .postgres => "SET CONSTRAINTS ALL IMMEDIATE"
  | .mysql => "SET FOREIGN_KEY_CHECKS=1"
  | .sqlite => "PRAGMA foreign_keys = ON"
  | .sqlServer => "EXEC sp_msforeachtable \"ALTER TABLE ? WITH CHECK CHECK CONSTRAINT all\""

def disableForeignKeys (t : Target) : String :=
  match t.dialect with
  | .postgres => "SET CONSTRAINTS ALL DEFERRED"
  | .mysql => "SET FOREIGN_KEY_CHECKS=0"
  | .sqlite => "PRAGMA foreign_keys = OFF"
  | .sqlServer => "EXEC sp_msforeachtable \"ALTER TABLE ? NOCHECK CONSTRAINT all\""

end Target

end SqlCompiler
