import SqlBatch.Result.Row
/- What a request yields: rows, and reports of how many rows the statements
   without rows changed.
     1. `shape_append`: the items of two parts are shaped together as one by one.
   Correspondence:
     `RowsAffected`, `extend` ↔ `Affected`, `Affected.extend?`
     `QueryResult`            ↔ `Item`
     `shape_results`          ↔ `shape` -/
namespace SqlBatch

/-- How many rows were changed, and the identifier generated last, if any. -/
structure Affected where
  rows : UInt64
  lastInsertId : Option UInt64
  deriving DecidableEq, Repr

namespace Affected

/-- Nothing was changed. -/
def none : Affected := ⟨0, Option.none⟩

/-- Both reports as one, unless 64 bits do not hold their sum. A later identifier counts over an
    earlier one. -/
def add? (a b : Affected) : Option Affected :=
  if a.rows.toNat + b.rows.toNat < UInt64.size then
    some ⟨a.rows + b.rows, b.lastInsertId <|> a.lastInsertId⟩
  else Option.none

/-- The report with those that come after it, one by one. -/
def extend? (a : Affected) : List Affected → Option Affected
  | [] => some a
  | b :: rest => (a.add? b).bind fun sum => sum.extend? rest

end Affected

/-- An item that a request yields. -/
inductive Item where
  | row (row : Row)
  | affected (affected : Affected)

/-- What a request came to: its rows in order, and its reports as one. -/
structure Shaped where
  rows : List Row
  affected : Affected

namespace Shaped

/-- A request that yielded nothing. -/
def empty : Shaped := ⟨[], .none⟩

/-- One more item. -/
def add? (s : Shaped) : Item → Option Shaped
  | .row r => some { s with rows := s.rows ++ [r] }
  | .affected a => (s.affected.extend? [a]).map fun sum => { s with affected := sum }

end Shaped

/-- The items after what came before them, none when the changed rows are too many for 64 bits. -/
def shapeFrom : Shaped → List Item → Option Shaped
  | s, [] => some s
  | s, item :: rest => (s.add? item).bind fun s => shapeFrom s rest

/-- What the items of a request come to. -/
def shape (items : List Item) : Option Shaped :=
  shapeFrom .empty items

theorem shapeFrom_append (s : Shaped) (xs ys : List Item) :
    shapeFrom s (xs ++ ys) = (shapeFrom s xs).bind fun s => shapeFrom s ys := by
  induction xs generalizing s with
  | nil => rfl
  | cons x xs ih =>
    simp only [List.cons_append, shapeFrom]
    cases s.add? x with
    | none => rfl
    | some s => exact ih s

/-- The second part of the items is shaped after what the first came to. -/
theorem shape_append (xs ys : List Item) :
    shape (xs ++ ys) = (shape xs).bind fun s => shapeFrom s ys :=
  shapeFrom_append .empty xs ys

end SqlBatch
