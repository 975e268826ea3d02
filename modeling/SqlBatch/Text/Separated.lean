/- Texts written one after another with a separator in between. An item that
   wrote nothing is followed by no separator, and neither is the last item.
     1. `writeSeparated_eq`: so it is when items are written to a buffer, of which
        only the length is looked at.
   Correspondence:
     `separated_by`, its loop ↔ `writeSeparated`, `writeItems`
     what it appends          ↔ `separated` -/
namespace SqlBatch.Text

/-- The items in order, each but the last followed by the separator when it is not empty. -/
def separated (separator : String) : List String → String
  | [] => ""
  | [item] => item
  | item :: rest => item ++ (if item = "" then "" else separator) ++ separated separator rest

@[simp] theorem separated_nil (separator : String) : separated separator [] = "" := rfl

@[simp] theorem separated_singleton (separator item : String) :
    separated separator [item] = item := rfl

theorem separated_cons_cons (separator item next : String) (rest : List String) :
    separated separator (item :: next :: rest) =
      item ++ (if item = "" then "" else separator) ++ separated separator (next :: rest) := rfl

/-- In front of others an item is followed by the separator when it is not empty. -/
theorem separated_cons_of_ne_nil (separator item : String) {rest : List String} (h : rest ≠ []) :
    separated separator (item :: rest) =
      item ++ (if item = "" then "" else separator) ++ separated separator rest := by
  obtain ⟨next, rest, rfl⟩ := List.exists_cons_of_ne_nil h
  exact separated_cons_cons separator item next rest

/-- Items that all wrote something have one separator between each two. -/
theorem separated_cons_of_ne (separator : String) {item : String} (h : item ≠ "")
    (next : String) (rest : List String) :
    separated separator (item :: next :: rest) =
      item ++ separator ++ separated separator (next :: rest) := by
  rw [separated_cons_cons, if_neg h]

section Buffer

variable {α : Type} (separator : String) (write : String → α → String)

/-- The buffer after the items were written to it. In front of each the separator is written if
    the buffer grew since it had the given length, which it had in front of the item before. -/
def writeItems : (length : Nat) → (out : String) → List α → String
  | _, out, [] => out
  | length, out, a :: rest =>
    let out := if length < out.utf8ByteSize then out ++ separator else out
    writeItems out.utf8ByteSize (write out a) rest

/-- The buffer after the items were written to it with the separator in between. -/
def writeSeparated (out : String) (items : List α) : String :=
  writeItems separator write out.utf8ByteSize out items

variable {write} {text : α → String}

/-- A buffer that grew has the separator in front of the next item. -/
theorem writeItems_eq (hwrite : ∀ out a, write out a = out ++ text a) (items : List α) :
    ∀ length out, writeItems separator write length out items =
      out ++ (if length < out.utf8ByteSize ∧ items ≠ [] then separator else "") ++
        separated separator (items.map text) := by
  induction items with
  | nil => simp [writeItems]
  | cons a rest ih =>
    intro length out
    have hkept : (if length < out.utf8ByteSize then out ++ separator else out) =
        out ++ if length < out.utf8ByteSize ∧ a :: rest ≠ [] then separator else "" := by
      split <;> simp [*]
    have hgrew (kept : String) :
        kept.utf8ByteSize < (kept ++ text a).utf8ByteSize ↔ text a ≠ "" := by
      rw [String.utf8ByteSize_append, ne_eq, ← String.utf8ByteSize_eq_zero_iff]
      omega
    simp only [writeItems, hkept, hwrite, ih, hgrew, List.map_cons]
    by_cases hrest : rest = []
    · subst hrest
      simp
    · rw [separated_cons_of_ne_nil separator _ (mt List.map_eq_nil_iff.mp hrest)]
      by_cases ha : text a = "" <;> simp [ha, hrest, String.append_assoc]

/-- What is written to a buffer is the items with the separator in between. -/
theorem writeSeparated_eq (hwrite : ∀ out a, write out a = out ++ text a) (out : String)
    (items : List α) :
    writeSeparated separator write out items =
      out ++ separated separator (items.map text) := by
  rw [writeSeparated, writeItems_eq separator hwrite,
    if_neg fun h => absurd h.1 (Nat.lt_irrefl _), String.append_empty]

end Buffer

end SqlBatch.Text
