import SqlBatch.Proofs.Sql.Condition
import SqlBatch.Sql.Quoting
/- Names in statements stand for themselves. What is copied to the buffer for a name is read back as
   the name, wherever it stands and whatever characters it has.
     1. `identifier_append`: a name is read up to its closing backtick, whatever else follows.
     2. `columnName_inj`: a qualified reference has the text of no other table or column.
     3. `quoted_names_read_back`: so it is of what is written to the buffer. -/
namespace SqlBatch.Sql

open Reader (bind_of_eq)

/-- A name is read in front of everything but one more backtick. -/
theorem identifier_append (name : String) {rest : List Char} (hrest : rest.head? ≠ some '`') :
    Reader.identifier ((identifier name).toList ++ rest) = some (name, rest) := by
  have hbacktick (cs : List Char) : Reader.expect "`" ("`".toList ++ cs) = some ((), cs) := by
    rw [Reader.expect, dropPrefix?_self, Option.map_some]
  rw [identifier, String.append_assoc, String.toList_append, List.append_assoc, Reader.identifier,
    bind_of_eq (hbacktick _), bind_of_eq (quoted_name name hrest), String.ofList_toList]
  rfl

/-- Columns are referred to in the same way if they belong to the same table, or to none, and have
    the same name. -/
theorem reference_inj {c d : Column} :
    c.reference true = d.reference true ↔ c.table = d.table ∧ c.name = d.name := by
  unfold Column.reference Column.isAttached
  by_cases hc : c.table = "" <;> by_cases hd : d.table = "" <;> simp [hc, hd, Ne.symm]

theorem columnName_inj {c d : Column} :
    columnName true c = columnName true d ↔ c.table = d.table ∧ c.name = d.name := by
  constructor
  · intro h
    have hspace : Before [" "] [' '] := ⟨" ", List.mem_singleton.mpr rfl, List.prefix_rfl⟩
    have hc := reads_columnName true c (by decide) [' '] hspace
    have hd := reads_columnName true d (by decide) [' '] hspace
    rw [h, hd, Option.some.injEq, Prod.mk.injEq] at hc
    exact reference_inj.mp hc.1.symm
  · rintro ⟨htable, hname⟩
    rw [columnName, columnName, Column.isAttached, Column.isAttached, htable, hname]

/-- To any buffer a text is copied with every occurrence of a character replaced, and nothing else,
    for no cut falls inside a character. What is written for a name is read back as the name, in
    front of everything but one more backtick, which is left as it is. Of two columns the qualified
    references are the same only if their tables are and their names. -/
theorem quoted_names_read_back :
    (∀ (text : String) (search : Char) (replacement out : String),
      writeEscaped text search replacement out = some (out ++ escaped text search replacement)) ∧
    (∀ (name out rest : String), rest.toList.head? ≠ some '`' →
      ∃ written, writeIdentifier out name = some (out ++ written) ∧
        Reader.identifier (written ++ rest).toList = some (name, rest.toList)) ∧
    ∀ (out : String) (c d : Column),
      writeColumn out true c = writeColumn out true d ↔ c.table = d.table ∧ c.name = d.name := by
  refine ⟨fun text search replacement out => writeEscaped_eq replacement text search out,
    fun name out rest hrest => ?_, fun out c d => ?_⟩
  · refine ⟨identifier name, writeIdentifier_eq out name, ?_⟩
    rw [String.toList_append]
    exact identifier_append name hrest
  · rw [writeColumn_eq, writeColumn_eq, Option.some.injEq, String.append_right_inj, columnName_inj]

/-- Occurrences side by side and at both ends of a text, a name with backticks at its ends in front
    of a point, and two pairs of names that differ in where the point stands. -/
theorem quoted_names_read_back_doubled :
    writeEscaped "€a€€" '€' "EUR" ">" = some ">EURaEUREUR" ∧
    ".`c`".toList.head? ≠ some '`' ∧
    writeIdentifier "" "`we``ird€`" = some "```we````ird€```" ∧
    Reader.identifier ("```we````ird€```" ++ ".`c`").toList = some ("`we``ird€`", ".`c`".toList) ∧
    writeColumn "" true ⟨"c", "a`.`b", .int, .none, by decide, rfl⟩ ≠
      writeColumn "" true ⟨"b`.`c", "a", .int, .none, by decide, rfl⟩ := by
  obtain ⟨hcopy, hread, hcolumn⟩ := quoted_names_read_back
  have hrest : ".`c`".toList.head? ≠ some '`' := by decide
  have hwritten : writeIdentifier "" "`we``ird€`" = some "```we````ird€```" := by
    decide +kernel
  obtain ⟨written, hsome, hname⟩ := hread "`we``ird€`" "" ".`c`" hrest
  rw [hwritten, String.empty_append, Option.some.injEq] at hsome
  refine ⟨(hcopy _ _ _ _).trans (by decide), hrest, hwritten, hsome ▸ hname, ?_⟩
  exact mt (hcolumn _ _ _).mp (by decide)

end SqlBatch.Sql
