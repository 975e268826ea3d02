import SqlBatch.Schema.Table
/- Identifiers in statements: a name between backticks, with every backtick of
   the name written twice.
   Correspondence:
     what `write_escaped` appends          ↔ `escaped`
     `write_identifier_quoted`, `sql_name` ↔ `identifier`
     `write_table`                         ↔ `tableName`
     `write_column`, `qualified_name`      ↔ `columnName`
     `with_alias`                          ↔ `aliased` -/
namespace SqlBatch.Sql

/-- The characters with every occurrence of one of them replaced. -/
def replaceChar (search : Char) (replacement : List Char) (cs : List Char) : List Char :=
  cs.flatMap fun c => if c = search then replacement else [c]

/-- The text with every occurrence of a character replaced. -/
def escaped (text : String) (search : Char) (replacement : String) : String :=
  String.ofList (replaceChar search replacement.toList text.toList)

/-- The name between backticks. -/
def identifier (name : String) : String :=
  "`" ++ escaped name '`' "``" ++ "`"

/-- The name of a table. -/
def tableName (t : Table) : String := identifier t.name

/-- The name of a column, after that of its table if the reference is to be qualified and the
    column belongs to one. -/
def columnName (qualified : Bool) (c : Column) : String :=
  if qualified && c.isAttached then identifier c.table ++ "." ++ identifier c.name
  else identifier c.name

/-- A name under an alias, or by itself when there is no alias. -/
def aliased (name label : String) : String :=
  if label = "" then name else name ++ " AS " ++ label

/-- A replaced text is the text itself when the character does not occur in it. -/
theorem replaceChar_of_not_mem {search : Char} {cs : List Char} (replacement : List Char)
    (h : search ∉ cs) : replaceChar search replacement cs = cs := by
  induction cs with
  | nil => rfl
  | cons c cs ih =>
    rw [List.mem_cons, not_or] at h
    have hc : c ≠ search := fun e => h.1 e.symm
    have := ih h.2
    simp_all [replaceChar]

theorem escaped_of_not_mem {search : Char} {text : String} (replacement : String)
    (h : search ∉ text.toList) : escaped text search replacement = text := by
  rw [escaped, replaceChar_of_not_mem _ h, String.ofList_toList]

end SqlBatch.Sql
