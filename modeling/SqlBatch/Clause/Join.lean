import SqlBatch.Schema.Table
/- Inner joins of the table that a statement selects from with other tables.
   Correspondence:
     `JoinClause::on`, `on_columns` ↔ `JoinClause.sameName`, `JoinClause.onColumns`
     `Join::new`, `all`, `and`      ↔ `Join.single`, `Join.all`, `Join.and` -/
namespace SqlBatch

/-- A joined table, whose `match` column equals `column` of the table selected from. -/
structure JoinClause where
  table : Table
  column : Column
  matchColumn : Column

namespace JoinClause

/-- The table joined on its column that has the name of the given one. -/
def sameName (table : Table) (column : Column) : JoinClause := ⟨table, column, column⟩

/-- The table joined on the given column of its own. -/
def onColumns (table : Table) (column matchColumn : Column) : Except ArgumentError JoinClause :=
  if matchColumn.isForeignTo table.name then
    .error (.foreignMatch table.name matchColumn.name matchColumn.table)
  else .ok ⟨table, column, matchColumn⟩

end JoinClause

/-- Joined tables, at least one. -/
structure Join where
  clauses : List JoinClause
  nonempty : clauses ≠ []

namespace Join

/-- The join of one table. -/
def single (clause : JoinClause) : Join := ⟨[clause], by simp⟩

/-- The join of all the tables. -/
def all (clauses : List JoinClause) : Except ArgumentError Join :=
  if h : clauses = [] then .error .emptyJoin else .ok ⟨clauses, h⟩

/-- The join with one more table. -/
def and (j : Join) (clause : JoinClause) : Join := ⟨j.clauses ++ [clause], by simp⟩

end Join

end SqlBatch
