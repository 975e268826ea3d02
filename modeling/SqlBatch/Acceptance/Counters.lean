import SqlBatch.Acceptance.Check
/- The acceptance of one table: rows inserted, replaced, updated and deleted, and
   selected, counted and summed in between.
   Correspondence:
     `counters` ↔ `counters` -/
namespace SqlBatch.Acceptance

/-- A table of counters, with its columns at hand. -/
structure Counters where
  table : Table
  name : Column
  amount : Column
  note : Column

/-- The table of counters. -/
def Counters.declare : Except ArgumentError Counters := do
  let table ← Table.declare "quay_counters"
    [← Column.declare "name" (.varchar 64) (.primaryKey ∪ .notNull),
     ← Column.declare "amount" .bigInt .notNull,
     ← Column.declare "note" (.varchar 255) .none]
  return ⟨table, ← table.column "name", ← table.column "amount", ← table.column "note"⟩

/-- A text with everything that has to be escaped. -/
def quotedNote : String := "it's \"quoted\"\n\\ and 🦀"

namespace Counters

variable {μ : Type}

/-- The values of a counter without a note. -/
def values (c : Counters) (name : String) (amount : Int64) : List Assignment :=
  [⟨c.name, .text name⟩, ⟨c.amount, .signed amount⟩]

/-- The table is made and filled, and has three rows. -/
def fill (c : Counters) : Program μ Unit := do
  let _ ← succeed <| .batch true do
    .createTable c.table
    .truncate c.table
  let _ ← succeed <| .batch true do
    .insert c.table (c.values "alpha" 1)
    .insert c.table (c.values "bravo" 2)
    .insert c.table (c.values "charlie" 3)
    .replace c.table (c.values "charlie" 3 ++ [⟨c.note, .text quotedNote⟩])
  require ((← succeed (.count c.table none)) = 3)

/-- The greatest counter, all but the first one, and listed ones are selected. -/
def find (c : Counters) : Program μ Unit := do
  let op ← accepted (Comparison.parse ">")
  let greatest ← succeed <| .select
    { table := c.table
      columns := .list [c.name, c.note]
      filter := some (.single (.compare c.amount op (.signed 1)))
      order := some ⟨c.amount, .descending⟩
      limit := some (.count 1) }
  let [row] := greatest | .abort
  require ((← textAt? "name" row) = some "charlie")
  require ((← textAt? "note" row) = some quotedNote)
  let others ← succeed <| .select
    { table := c.table, order := some ⟨c.name, .ascending⟩, limit := some (.offset 1) }
  require (others.length = 2)
  let listed ← accepted (Clause.isIn c.name [.text "alpha", .text "charlie"])
  let found ← succeed <| .select { table := c.table, filter := some (.single listed) }
  require (found.length = 2)

/-- The sum of all counters is the given one. -/
def requireSum (c : Counters) (total : Int) : Program μ Unit := do
  require ((← succeed (.sum c.table c.amount none none)).asInt? = some total)

/-- A counter is updated and another one deleted, and the sums and counts follow. -/
def change (c : Counters) : Program μ Unit := do
  let _ ← succeed <| .batch false do
    .update c.table [⟨c.amount, .signed 20⟩] (isText c.name "bravo")
    .delete c.table (isText c.name "alpha")
  c.requireSum 23
  let op ← accepted (Comparison.parse "LIKE")
  let alike := Filter.single (.compare c.name op (.text "%a%"))
  require ((← succeed (.count c.table (some alike))) = 2)
  let nothing ← succeed (.sum c.table c.amount none (some (isText c.name "nobody")))
  require (nothing.isNull = true)

/-- One counter that is there and one that is not are selected together, each with its count. -/
def findTogether (c : Counters) : Program μ Unit := do
  let rows ← succeed <| .unionSelect false
    { table := c.table
      filters := [isText c.name "bravo", isText c.name "nobody"]
      columns := .ofText "MAX(`amount`) AS amount"
      join := none }
  let [there, absent] := rows | .abort
  require (there.values.head?.bind Value.asNat? = some 1)
  require ((← intAt? "amount" there) = some 20)
  require (absent.values.head?.bind Value.asNat? = some 0)
  require ((← valueAt? "amount" absent).any Value.isNull = true)

end Counters

/-- The acceptance of one table. -/
def counters {μ : Type} : Program μ Unit := do
  let c ← accepted Counters.declare
  c.fill
  c.find
  c.requireSum 6
  c.change
  c.findTogether

end SqlBatch.Acceptance
