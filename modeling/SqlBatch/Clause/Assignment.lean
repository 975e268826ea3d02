import SqlBatch.Schema.Table
import SqlBatch.Value.Basic
/- Values assigned to the columns of a table.
   Correspondence:
     `ColumnValue`         ↔ `Assignment`
     `check_column_values` ↔ `checkAssignments` -/
namespace SqlBatch

/-- A value for a column. -/
structure Assignment where
  column : Column
  value : Value

/-- The values can be assigned in a statement on the table: there is one, and none is for a
    column of another table. -/
def checkAssignments (statement : Assigning) (table : Table) (values : List Assignment) :
    Except ArgumentError Unit :=
  if values = [] then .error (.noAssignments statement table.name)
  else
    match values.find? fun a => a.column.isForeignTo table.name with
    | some a => .error (.foreignAssignment statement table.name a.column.name a.column.table)
    | none => .ok ()

end SqlBatch
