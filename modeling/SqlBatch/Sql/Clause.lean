import SqlBatch.Clause.Select
import SqlBatch.Clause.Assignment
import SqlBatch.Sql.Identifier
import SqlBatch.Sql.Literal
import SqlBatch.Text.Separated
/- Clauses as the parts of a statement that they are.
   Correspondence:
     `write_column_type`                   ↔ `columnType`
     `write_filter_clause`, `write_filter` ↔ `condition`, `filter`
     `write_join`, one clause of it        ↔ `join`, `joinClause`
     `write_order_by`, `write_limit`       ↔ `orderBy`, `limit`
     `write_columns`                       ↔ `columns`
     `write_column_values`                 ↔ `columnValues`
     the list of `write_update`            ↔ `assignments`
     `write_create_table_column_fragment`  ↔ `columnDefinition` -/
namespace SqlBatch.Sql

open Text (separated)

/-- The type of a column. -/
def columnType : ColumnType → String
  | .char w => "CHAR(" ++ toString w ++ ")"
  | .tinyInt => "INT(4)"
  | .smallInt => "INT(6)"
  | .mediumInt => "INT(8)"
  | .int => "INT(11)"
  | .bigInt => "INT(20)"
  | .longBlob => "LONGBLOB"
  | .varchar w => "VARCHAR(" ++ toString w ++ ")"

/-- One condition. Both sides of an equality of columns are qualified, all else is not. -/
def condition (d : Dialect) : Clause → String
  | .equals c v => columnName false c ++ " = " ++ literal d v
  | .member c vs _ => columnName false c ++ " IN (" ++ separated ", " (vs.map (literal d)) ++ ")"
  | .compare c op v => columnName false c ++ " " ++ op.symbol ++ " " ++ literal d v
  | .columns a b _ => columnName true a ++ " = " ++ columnName true b

/-- `WHERE a AND b`. -/
def filter (d : Dialect) (f : Filter) : String :=
  "WHERE " ++ separated " AND " (f.clauses.map (condition d))

/-- One joined table, matched with a column of the table selected from. -/
def joinClause (owner : Table) (j : JoinClause) : String :=
  "INNER JOIN " ++ tableName j.table ++ " ON " ++ tableName j.table ++ "." ++
    identifier j.matchColumn.name ++ " = " ++ tableName owner ++ "." ++ identifier j.column.name

/-- The joined tables. -/
def join (owner : Table) (j : Join) : String :=
  separated " " (j.clauses.map (joinClause owner))

/-- `ORDER BY column ASC`. -/
def orderBy (o : OrderBy) : String :=
  "ORDER BY " ++ columnName false o.column ++ " " ++ o.order.keyword

/-- `LIMIT count` or `LIMIT offset,count`. -/
def limit : Limit → String
  | .count n => "LIMIT " ++ toString n.toNat
  | .range offset n => "LIMIT " ++ toString offset.toNat ++ "," ++ toString n.toNat

/-- What is selected. -/
def columns (qualified : Bool) : Columns → String
  | .all => "*"
  | .list cs => separated "," (cs.map (columnName qualified))
  | .expression text => text

/-- The columns and then the values of an insertion, each in parentheses. -/
def columnValues (d : Dialect) (values : List Assignment) : String :=
  " (" ++ separated "," (values.map fun a => columnName false a.column) ++ ") VALUES (" ++
    separated "," (values.map fun a => literal d a.value) ++ ")"

/-- The assignments of an update. -/
def assignments (d : Dialect) (values : List Assignment) : String :=
  separated "," (values.map fun a => columnName false a.column ++ "=" ++ literal d a.value)

/-- The definition of a column. -/
def columnDefinition (c : Column) : String :=
  columnName false c ++ " " ++ columnType c.type ++
    (if c.isUnsigned then " UNSIGNED" else "") ++
    (if c.isNotNull then " NOT NULL" else "") ++
    (if c.isAutoIncrement then " AUTO_INCREMENT" else "")

end SqlBatch.Sql
