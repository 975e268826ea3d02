import SqlBatch.Session.Program
import SqlBatch.Value.Accessors
/- What a session can be asked to do. Arguments are checked before the session is
   touched: a call that refuses one does nothing else.
   Correspondence:
     `batch`, `batch_locked_for_write`             ↔ `batch`, `lockedBatch`
     `read`, `select`, `multi_select`              ↔ `read`, `select`, `unionSelect`
     `count`, `sum`, `first_value`                 ↔ `count`, `sum`, `firstValue`
     `queue_insert_into`, `queue_replace`          ↔ `insert`, `replace`
     `queue_update`, `queue_delete`                ↔ `update`, `delete`
     `queue_truncate_table`, `queue_set`           ↔ `truncate`, `set`
     `queue_lock_tables`, `compose_lock_tables`    ↔ `lockTables`, `lockStatement`
     `queue_unlock_tables`                         ↔ `unlockTables`
     `queue_create_table`, `queue_create_database` ↔ `createTable`, `createDatabase`
     `use_database`                                ↔ `use` -/
namespace SqlBatch.Program

variable {μ α : Type}

/-- One statement that waits for the end of a scope. -/
def queued (statement : Statement) : Program μ Unit := .queue statement (pure ())

/-- The definition of a table. -/
def createTable (t : Table) : Program μ Unit := queued (.createTable t)

/-- A row inserted into a table. -/
def insert (t : Table) (values : List Assignment) : Program μ Unit := do
  ofChecked (checkAssignments .insert t values)
  queued (.insert t values)

/-- A row put in the place of those that share its keys. -/
def replace (t : Table) (values : List Assignment) : Program μ Unit := do
  ofChecked (checkAssignments .replace t values)
  queued (.replace t values)

/-- The filtered rows updated. -/
def update (t : Table) (values : List Assignment) (f : Filter) : Program μ Unit := do
  ofChecked (checkAssignments .update t values)
  queued (.update t values f)

/-- The filtered rows deleted. -/
def delete (t : Table) (f : Filter) : Program μ Unit := queued (.delete t f)

/-- All rows deleted. -/
def truncate (t : Table) : Program μ Unit := queued (.truncate t)

/-- A text can stand as the target of an assignment: it is not blank and has no semicolon. -/
def isSetTarget (name : String) : Bool :=
  Text.dropBlankEnds name.toList ≠ [] && !name.toList.contains ';'

/-- A value assigned to a variable. -/
def set (name : String) (value : Value) : Program μ Unit :=
  if isSetTarget name then queued (.set name value) else fail (.argument (.setTarget name))

/-- The statement that locks tables, of which there must be one. -/
def lockStatement (locks : List (Table × LockKind)) : Except ArgumentError Statement :=
  if locks.isEmpty then .error .noLocks else .ok (.lockTables locks)

/-- Tables locked. -/
def lockTables (locks : List (Table × LockKind)) : Program μ Unit := do
  queued (← ofChecked (lockStatement locks))

/-- All tables unlocked. -/
def unlockTables : Program μ Unit := queued .unlockTables

/-- A database created. -/
def createDatabase (name : String) : Program μ Unit :=
  if name = "" then fail (.argument .emptyDatabaseName) else queued (.createDatabase name)

/-- The database switched. -/
def use (database : String) : Program μ Unit := .useDatabase database (pure ())

/-- An operation in a scope of its own. -/
def batch (destroyOnError : Bool) (operation : Program μ α) : Program μ (Batched α) :=
  .scope destroyOnError .outermost operation .done

/-- An operation in a scope that locks tables for writing before it and unlocks them after it.
    If it fails the connection is destroyed, and with it the locks. -/
def lockedBatch (tables : List Table) (operation : Program μ α) : Program μ (Batched α) := do
  let lock ← ofChecked (lockStatement (tables.map fun t => (t, .write)))
  batch true do
    queued lock
    let value ← operation
    unlockTables
    return value

/-- The rows of a statement, which is sent at once with everything that waits. -/
def read (destroyOnError : Bool) (statement : Statement) : Program μ (List Row) :=
  .scope destroyOnError .always (queued statement) fun r => .done (r.map (·.rows))

/-- The rows of a select. -/
def select (q : Select) : Program μ (List Row) := read false (.select q)

/-- The rows of several selects of one table, each with its count. -/
def unionSelect (destroyOnError : Bool) (q : UnionSelect) : Program μ (List Row) :=
  if q.filters.isEmpty then fail (.argument (.noFilters q.table.name))
  else read destroyOnError (.unionSelect q)

/-- The value of the first row under a label, the row's first value if it has no such label, and
    null if there is none. A label without its value aborts. -/
def firstValue (label : String) : List Row → Program μ Value
  | [] => pure .null
  | r :: _ =>
    match r.cell label with
    | .value v => pure v
    | .unlabelled => pure (r.values.head?.getD .null)
    | .missing => .abort

/-- The label under which a server returns a count. -/
def countLabel : String := "COUNT(*)"

/-- How many rows of a table a filter leaves. -/
def count (t : Table) (f : Option Filter) : Program μ Nat := do
  let rows ← select { table := t, columns := .ofText countLabel, filter := f }
  let value ← firstValue countLabel rows
  match value.asNat? with
  | some n => return n
  | none => fail (.unexpectedCount value t.name)

/-- The label that a sum asks to be returned under. -/
def sumLabel : String := "total"

/-- What is selected for a sum. -/
def sumExpression (c : Column) (joined : Bool) : String :=
  "SUM(" ++ Sql.columnName joined c ++ ") AS " ++ sumLabel

/-- The sum of a column, null when no row is left. -/
def sum (t : Table) (c : Column) (j : Option Join) (f : Option Filter) : Program μ Value := do
  let rows ← select
    { table := t, columns := .ofText (sumExpression c j.isSome), join := j, filter := f }
  firstValue sumLabel rows

end SqlBatch.Program
