import SqlBatch.Schema.Column
import SqlBatch.Value.Basic
import SqlBatch.Text.Blank
/- Filters: conditions on columns that must all hold.
   Correspondence:
     `Comparison`, `as_str`, `from_str`       ↔ `Comparison`, `symbol`, `parse`
     `FilterClause`, `is_in`, `columns_equal` ↔ `Clause`, `Clause.isIn`, `Clause.columnsEqual`
     `Filter::new`, `all`, `and`              ↔ `Filter.single`, `Filter.all`, `Filter.and` -/
namespace SqlBatch

/-- A comparison of a column with a value. -/
inductive Comparison where
  | equal
  | notEqual
  | less
  | lessEqual
  | greater
  | greaterEqual
  | like
  | notLike
  deriving DecidableEq, Repr

namespace Comparison

/-- The operator that statements write. -/
def symbol : Comparison → String
  | .equal => "="
  | .notEqual => "!="
  | .less => "<"
  | .lessEqual => "<="
  | .greater => ">"
  | .greaterEqual => ">="
  | .like => "LIKE"
  | .notLike => "NOT LIKE"

/-- The comparison that a text names: its operator between blanks and in any case of ASCII,
    where `<>` is another name of `!=`. -/
def parse (text : String) : Except ArgumentError Comparison :=
  match String.ofList ((Text.dropBlankEnds text.toList).map Char.toUpper) with
  | "=" => .ok .equal
  | "!=" | "<>" => .ok .notEqual
  | "<" => .ok .less
  | "<=" => .ok .lessEqual
  | ">" => .ok .greater
  | ">=" => .ok .greaterEqual
  | "LIKE" => .ok .like
  | "NOT LIKE" => .ok .notLike
  | _ => .error (.comparison text)

/-- The operator of a comparison names it. -/
theorem parse_symbol (op : Comparison) : parse op.symbol = .ok op := by
  cases op <;> rfl

end Comparison

/-- A condition of a filter. Of memberships and equalities of columns only those are modelled that
    `isIn` and `columnsEqual` build: the former have a value, the columns of the latter a table. -/
inductive Clause where
  | equals (column : Column) (value : Value)
  | member (column : Column) (values : List Value) (nonempty : values ≠ [])
  | compare (column : Column) (op : Comparison) (value : Value)
  /-- Equality of two columns, each of which belongs to a table. -/
  | columns (left right : Column)
      (attached : left.isAttached = true ∧ right.isAttached = true)

namespace Clause

/-- The condition that a column has one of the values. -/
def isIn (column : Column) (values : List Value) : Except ArgumentError Clause :=
  if h : values = [] then .error (.emptyMembership column.name)
  else .ok (.member column values h)

/-- The condition that two columns are equal. -/
def columnsEqual (left right : Column) : Except ArgumentError Clause :=
  if h : left.isAttached = true ∧ right.isAttached = true then .ok (.columns left right h)
  else .error (.detachedEquality left.name right.name)

/-- The column that the condition is on. -/
def column : Clause → Column
  | .equals c _ | .member c _ _ | .compare c _ _ | .columns c _ _ => c

end Clause

/-- Conditions that must all hold, at least one. -/
structure Filter where
  clauses : List Clause
  nonempty : clauses ≠ []

namespace Filter

/-- The filter of one condition. -/
def single (clause : Clause) : Filter := ⟨[clause], by simp⟩

/-- The filter of all the conditions. -/
def all (clauses : List Clause) : Except ArgumentError Filter :=
  if h : clauses = [] then .error .emptyFilter else .ok ⟨clauses, h⟩

/-- The filter with one more condition. -/
def and (f : Filter) (clause : Clause) : Filter := ⟨f.clauses ++ [clause], by simp⟩

end Filter

end SqlBatch
