import SqlBatch.Clause.Filter
import SqlBatch.Clause.Join
/- Selects: which columns of which table, joined with what, under which filter,
   in which order and how many.
   Correspondence:
     `Order`, `as_str`, `from_str` ↔ `Order`, `keyword`, `parse`
     `OrderBy`, `Limit`            ↔ `OrderBy`, `Limit`
     `Columns`, from a text        ↔ `Columns`, `Columns.ofText`
     `Select`                      ↔ `Select` -/
namespace SqlBatch

/-- The direction of an order. -/
inductive Order where
  | ascending
  | descending
  deriving DecidableEq, Repr

namespace Order

/-- The keyword that statements write. -/
def keyword : Order → String
  | .ascending => "ASC"
  | .descending => "DESC"

/-- The direction that a text names, in any case of ASCII. -/
def parse (text : String) : Except ArgumentError Order :=
  match String.ofList (text.toList.map Char.toUpper) with
  | "ASC" => .ok .ascending
  | "DESC" => .ok .descending
  | _ => .error (.order text)

/-- The keyword of a direction names it. -/
theorem parse_keyword (o : Order) : parse o.keyword = .ok o := by
  cases o <;> rfl

end Order

/-- The column that rows are ordered by. -/
structure OrderBy where
  column : Column
  order : Order

/-- How many rows are selected. -/
inductive Limit where
  | count (count : UInt64)
  | range (offset count : UInt64)
  deriving DecidableEq, Repr

/-- All the rows after the first `offset`. -/
def Limit.offset (offset : UInt64) : Limit := .range offset 0xFFFFFFFFFFFFFFFF

/-- What a select returns of a row. -/
inductive Columns where
  | all
  | list (columns : List Column)
  /-- An expression that is written as it is. -/
  | expression (text : String)

/-- The columns that a text asks for: an asterisk between blanks means all. -/
def Columns.ofText (text : String) : Columns :=
  if Text.dropBlankEnds text.toList = ['*'] then .all else .expression text

/-- A select. -/
structure Select where
  table : Table
  columns : Columns := .all
  join : Option Join := none
  filter : Option Filter := none
  order : Option OrderBy := none
  limit : Option Limit := none

end SqlBatch
