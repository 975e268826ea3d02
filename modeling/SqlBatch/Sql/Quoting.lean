import SqlBatch.Sql.Identifier
import SqlBatch.Text.Slice
/- Names written to the buffer of a statement. A text is copied to the buffer in parts,
   each cut out between two occurrences of the character that is replaced. If a cut fell
   inside a character, nothing could be cut out, and there would be no buffer.
     1. `copyEscaped_eq`: behind what is copied already, and what is kept back and holds no
        occurrence, the rest is copied with every occurrence replaced.
     2. `writeEscaped_eq`: so every text is copied whole.
     3. `writeIdentifier_eq`, `writeColumn_eq`: and with it names and references.
   Correspondence:
     `write_escaped`, its loop ↔ `writeEscaped`, `copyEscaped`
     `write_identifier_quoted` ↔ `writeIdentifier`
     `write_column`            ↔ `writeColumn` -/
namespace SqlBatch.Sql

open Text (slice? slice?_append)

/-- The characters, each with the byte index at which it begins, the first with the given one. -/
def indexed : Nat → List Char → List (Nat × Char)
  | _, [] => []
  | i, c :: cs => (i, c) :: indexed (i + c.utf8Size) cs

section Copying

variable (text : String) (search : Char) (replacement : String)

/-- The buffer after the text was copied to it from the given position on. The characters that are
    still to be looked at begin there or behind it. -/
def copyEscaped : (position : Nat) → (out : String) → List (Nat × Char) → Option String
  | position, out, [] => do
    let part ← slice? text position text.utf8ByteSize
    return out ++ part
  | position, out, (i, c) :: rest =>
    if c = search then do
      let part ← slice? text position i
      copyEscaped (i + c.utf8Size) (out ++ part ++ replacement) rest
    else copyEscaped position out rest

/-- The buffer after the text was copied to it with every occurrence of a character replaced. -/
def writeEscaped (out : String) : Option String :=
  copyEscaped text search replacement 0 out (indexed 0 text.toList)

end Copying

/-- The buffer after a name was written to it between backticks. -/
def writeIdentifier (out name : String) : Option String := do
  let out ← writeEscaped name '`' "``" (out ++ "`")
  return out ++ "`"

/-- The buffer after a column was written to it, behind its table if the reference is to be
    qualified and the column belongs to one. -/
def writeColumn (out : String) (qualified : Bool) (c : Column) : Option String := do
  if qualified && c.isAttached then
    let out ← writeIdentifier out c.table
    writeIdentifier (out ++ ".") c.name
  else writeIdentifier out c.name

/-! What is copied. -/

section Copied

variable {search : Char} (replacement : String)

theorem escaped_append (s t : String) :
    escaped (s ++ t) search replacement =
      escaped s search replacement ++ escaped t search replacement := by
  simp [escaped, replaceChar]

theorem escaped_search : escaped (String.singleton search) search replacement = replacement := by
  simp [escaped, replaceChar]

/-- What is copied already ends at the position, and what was looked at behind it holds no
    occurrence. -/
theorem copyEscaped_eq (rest : List Char) (copied kept : String) (h : search ∉ kept.toList)
    (out : String) :
    copyEscaped (copied ++ kept ++ String.ofList rest) search replacement copied.utf8ByteSize out
        (indexed (copied ++ kept).utf8ByteSize rest) =
      some (out ++ kept ++ escaped (String.ofList rest) search replacement) := by
  induction rest generalizing copied kept out with
  | nil =>
    have hpart := slice?_append copied kept ""
    rw [String.append_empty] at hpart
    have hnothing : escaped "" search replacement = "" := escaped_of_not_mem _ (by simp)
    rw [indexed, copyEscaped, String.ofList_nil, String.append_empty, hpart, hnothing,
      String.append_empty]
    rfl
  | cons c rest ih =>
    have hsplit : String.ofList (c :: rest) = String.singleton c ++ String.ofList rest :=
      String.ofList_cons
    have hsize : (copied ++ kept).utf8ByteSize + c.utf8Size =
        (copied ++ kept ++ String.singleton c).utf8ByteSize := by
      rw [String.utf8ByteSize_append (s := copied ++ kept), String.utf8ByteSize_singleton]
    rw [indexed, copyEscaped, hsize, hsplit, escaped_append]
    split
    · next hc =>
      -- The occurrence ends what is copied, and nothing is kept back behind it.
      subst hc
      have hpart := slice?_append copied kept (String.singleton c ++ String.ofList rest)
      have hnone : c ∉ "".toList := by simp
      have hrest := ih (copied ++ kept ++ String.singleton c) "" hnone
        (out ++ kept ++ replacement)
      rw [String.append_empty, String.append_empty] at hrest
      rw [hpart, escaped_search, ← String.append_assoc, ← String.append_assoc]
      exact hrest
    · next hc =>
      have hkept : search ∉ (kept ++ String.singleton c).toList := by
        simpa [h] using Ne.symm hc
      have hsame : escaped (String.singleton c) search replacement = String.singleton c :=
        escaped_of_not_mem replacement (by simpa using Ne.symm hc)
      have hrest := ih copied (kept ++ String.singleton c) hkept out
      rw [hsame, ← String.append_assoc, ← String.append_assoc]
      rw [← String.append_assoc, ← String.append_assoc] at hrest
      exact hrest

/-- No cut falls inside a character, and the text is copied with every occurrence replaced. -/
theorem writeEscaped_eq (text : String) (search : Char) (out : String) :
    writeEscaped text search replacement out = some (out ++ escaped text search replacement) := by
  have hnone : search ∉ "".toList := by simp
  simpa [writeEscaped] using copyEscaped_eq replacement text.toList "" "" hnone out

end Copied

theorem writeIdentifier_eq (out name : String) :
    writeIdentifier out name = some (out ++ identifier name) := by
  rw [writeIdentifier, writeEscaped_eq, identifier]
  simp [String.append_assoc]

theorem writeColumn_eq (out : String) (qualified : Bool) (c : Column) :
    writeColumn out qualified c = some (out ++ columnName qualified c) := by
  unfold writeColumn columnName
  split
  · simp [writeIdentifier_eq, String.append_assoc]
  · exact writeIdentifier_eq out c.name

end SqlBatch.Sql
