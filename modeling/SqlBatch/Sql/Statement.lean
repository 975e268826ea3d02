import SqlBatch.Sql.Clause
/- Statements, and their texts. Every text ends with the semicolon that closes
   the statement, so that texts can be sent one after another as one request.
   Correspondence:
     `write_select`                   ↔ `selectBody`
     `write_multi_select`, one block  ↔ `statement` of `unionSelect`, `unionBlock`
     `write_create_table`             ↔ `statement` of `createTable`, `tableDefinition`
     `write_insert_into` and the like ↔ `statement` of `insert` and the like
     `LockType`                       ↔ `LockKind` -/
namespace SqlBatch

/-- How a table is locked. -/
inductive LockKind where
  | read
  | write
  deriving DecidableEq, Repr

/-- The keyword that statements write. -/
def LockKind.keyword : LockKind → String
  | .read => "READ"
  | .write => "WRITE"

/-- Several selects of one table, each counted, as one. -/
structure UnionSelect where
  table : Table
  filters : List Filter
  columns : Columns := .all
  join : Option Join := none

/-- A statement. -/
inductive Statement where
  | select (query : Select)
  | unionSelect (query : UnionSelect)
  | insert (table : Table) (values : List Assignment)
  | replace (table : Table) (values : List Assignment)
  | update (table : Table) (values : List Assignment) (filter : Filter)
  | delete (table : Table) (filter : Filter)
  | truncate (table : Table)
  | set (name : String) (value : Value)
  | lockTables (locks : List (Table × LockKind))
  | unlockTables
  | createDatabase (name : String)
  | use (database : String)
  | createTable (table : Table)

namespace Sql

open Text (separated)

/-- A part of a statement that may be missing, with the blank before it. -/
def part {α : Type} (text : α → String) : Option α → String
  | none => ""
  | some a => " " ++ text a

/-- The select without the semicolon. Its columns are qualified when there is a join. -/
def selectBody (d : Dialect) (q : Select) : String :=
  "SELECT " ++ columns q.join.isSome q.columns ++ " FROM " ++ tableName q.table ++
    part (join q.table) q.join ++ part (filter d) q.filter ++ part orderBy q.order ++
    part limit q.limit

/-- What a block of a union selects after the count. An asterisk is accepted only first in a
    list, so that all columns are those of the table by its name. -/
def unionColumns (q : UnionSelect) : String :=
  match q.columns with
  | .all => tableName q.table ++ ".*"
  | cs => columns q.join.isSome cs

/-- The block of one filter. -/
def unionBlock (d : Dialect) (q : UnionSelect) (f : Filter) : String :=
  "SELECT count(*)," ++ unionColumns q ++ " FROM " ++ tableName q.table ++
    part (join q.table) q.join ++ " " ++ filter d f

/-- The key of a unique column. -/
def uniqueKey (c : Column) : String :=
  ", UNIQUE KEY " ++ identifier (c.name ++ "_UNIQUE") ++ " (" ++ columnName false c ++ ")"

/-- The definition of a table: its columns, its primary key and its unique keys. -/
def tableDefinition (t : Table) : String :=
  separated ", " (t.columns.map columnDefinition) ++
    (match t.primaryKey? with
      | some c => ", PRIMARY KEY (" ++ columnName false c ++ ")"
      | none => "") ++
    String.join (t.uniqueColumns.map uniqueKey)

/-- The text of a statement. -/
def statement (d : Dialect) : Statement → String
  | .select q => selectBody d q ++ ";"
  | .unionSelect q => separated " UNION ALL " (q.filters.map (unionBlock d q)) ++ ";"
  | .insert t vs => "INSERT INTO " ++ tableName t ++ columnValues d vs ++ ";"
  | .replace t vs => "REPLACE " ++ tableName t ++ columnValues d vs ++ ";"
  | .update t vs f =>
    "UPDATE " ++ tableName t ++ " SET " ++ assignments d vs ++ " " ++ filter d f ++ ";"
  | .delete t f => "DELETE FROM " ++ tableName t ++ " " ++ filter d f ++ ";"
  | .truncate t => "TRUNCATE TABLE " ++ tableName t ++ ";"
  | .set name v => "SET " ++ name ++ " = " ++ literal d v ++ ";"
  | .lockTables locks =>
    "LOCK TABLES " ++ separated ", " (locks.map fun l => tableName l.1 ++ " " ++ l.2.keyword) ++ ";"
  | .unlockTables => "UNLOCK TABLES;"
  | .createDatabase name => "CREATE DATABASE " ++ identifier name ++ ";"
  | .use database => "USE " ++ identifier database ++ ";"
  | .createTable t =>
    "CREATE TABLE IF NOT EXISTS " ++ tableName t ++ " (" ++ tableDefinition t ++ ");"

end Sql

end SqlBatch
