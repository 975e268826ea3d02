import SqlBatch.Value.Basic
/- Rows: values under labels. A server may send more labels than values, so that
   a label can be there without a value under it.
     1. `cell_eq_missing_iff`: when that happens.
   Correspondence:
     `RowLabeled` ↔ `Row`
     `get_column` ↔ `Row.cell` -/
namespace SqlBatch

/-- A row. -/
structure Row where
  labels : List String
  values : List Value

/-- What a row has under a label. -/
inductive Cell where
  | value (value : Value)
  /-- The row has no such label. -/
  | unlabelled
  /-- The row has the label and ends before its value. -/
  | missing

namespace Row

/-- What the row has under the first label that is the given one. -/
def cell (r : Row) (label : String) : Cell :=
  match r.labels.idxOf? label with
  | none => .unlabelled
  | some i =>
    match r.values[i]? with
    | some v => .value v
    | none => .missing

/-- A value is missing exactly when the values end before the first place of the label. -/
theorem cell_eq_missing_iff (r : Row) (label : String) :
    r.cell label = .missing ↔ ∃ i, r.labels.idxOf? label = some i ∧ r.values.length ≤ i := by
  unfold cell
  split
  · next h => simp [h]
  · next i h =>
    simp only [h, Option.some.injEq, exists_eq_left']
    split
    · next v hv =>
      have := (List.getElem?_eq_some_iff.mp hv).1
      simp only [reduceCtorEq, false_iff]
      omega
    · next hv => simpa using hv

end Row

end SqlBatch
