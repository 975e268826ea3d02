/- Faults in what a caller asks for. Each is found while a column, a table, a
   clause or a statement is made, before anything is queued or sent.
   Correspondence:
     `InvalidArgumentError`     ↔ `ArgumentError`
     `message`, with its prefix ↔ `ArgumentError.message` -/
namespace SqlBatch

/-- The statements that assign values to columns. -/
inductive Assigning where
  | insert
  | replace
  | update
  deriving DecidableEq, Repr

/-- The statement's name. -/
def Assigning.name : Assigning → String
  | .insert => "INSERT"
  | .replace => "REPLACE"
  | .update => "UPDATE"

/-- What is wrong with an argument. -/
inductive ArgumentError where
  /-- A column without a name. -/
  | emptyColumnName
  /-- A fixed width outside of 1 to 255. -/
  | charWidth (column : String)
  /-- A greatest width outside of 1 to 65535. -/
  | varcharWidth (column : String)
  /-- A table without a name. -/
  | emptyTableName
  /-- Two columns of one name. -/
  | duplicateColumn (table column : String)
  /-- Two primary keys. -/
  | secondPrimaryKey (table : String)
  /-- A table without columns. -/
  | noColumns (table : String)
  /-- A column that the table has not. -/
  | unknownColumn (table column : String)
  /-- A text that names no comparison. -/
  | comparison (text : String)
  /-- A text that names no order. -/
  | order (text : String)
  /-- Membership in nothing. -/
  | emptyMembership (column : String)
  /-- Equality with a column that belongs to no table. -/
  | detachedEquality (left right : String)
  /-- A filter without clauses. -/
  | emptyFilter
  /-- A join without clauses. -/
  | emptyJoin
  /-- A joined table matched on a column of another one. -/
  | foreignMatch (table column owner : String)
  /-- A text that names no session variable. -/
  | variableName (text : String)
  /-- Nothing to assign. -/
  | noAssignments (statement : Assigning) (table : String)
  /-- A value for a column of another table. -/
  | foreignAssignment (statement : Assigning) (table column owner : String)
  /-- A union of no selects. -/
  | noFilters (table : String)
  /-- A text that cannot stand as the target of an assignment. -/
  | setTarget (name : String)
  /-- No tables to lock. -/
  | noLocks
  /-- A database without a name. -/
  | emptyDatabaseName
  deriving DecidableEq, Repr

/-- The fault in words. -/
def ArgumentError.describe : ArgumentError → String
  | .emptyColumnName => "Column name must not be empty"
  | .charWidth c => "CHAR column `" ++ c ++ "` must have a width in 1..=255"
  | .varcharWidth c => "VARCHAR column `" ++ c ++ "` must have a width in 1..=65535"
  | .emptyTableName => "Table name must not be empty"
  | .duplicateColumn t c => "Table `" ++ t ++ "` declares column `" ++ c ++ "` more than once"
  | .secondPrimaryKey t => "Table `" ++ t ++ "` declares more than one primary key column"
  | .noColumns t => "Table `" ++ t ++ "` must have at least one column"
  | .unknownColumn t c => "Table `" ++ t ++ "` has no column `" ++ c ++ "`"
  | .comparison s => "`" ++ s ++ "` is not a comparison operator"
  | .order s => "`" ++ s ++ "` is not a sort order, expected ASC or DESC"
  | .emptyMembership c => "Membership filter on `" ++ c ++ "` needs at least one value"
  | .detachedEquality a b =>
    "Column equality between `" ++ a ++ "` and `" ++ b ++
      "` requires both columns to belong to a table"
  | .emptyFilter => "Filter needs at least one clause"
  | .emptyJoin => "Join needs at least one clause"
  | .foreignMatch t c o =>
    "Join on `" ++ t ++ "` cannot match column `" ++ c ++ "` of table `" ++ o ++ "`"
  | .variableName s => "`" ++ s ++ "` is not a session variable name"
  | .noAssignments k t => k.name ++ " on `" ++ t ++ "` needs at least one column value"
  | .foreignAssignment k t c o =>
    k.name ++ " on `" ++ t ++ "` cannot assign column `" ++ c ++ "` of table `" ++ o ++ "`"
  | .noFilters t => "Multi select on `" ++ t ++ "` needs at least one filter"
  | .setTarget n => "`" ++ n ++ "` cannot be the target of SET"
  | .noLocks => "LOCK TABLES needs at least one table"
  | .emptyDatabaseName => "Database name must not be empty"

/-- The message that reports the fault. -/
def ArgumentError.message (e : ArgumentError) : String :=
  "Invalid argument: " ++ e.describe

end SqlBatch
