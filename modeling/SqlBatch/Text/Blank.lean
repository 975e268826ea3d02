/- White space at the two ends of a text. A character is blank when Unicode
   gives it the property White_Space; nothing inside the text is touched.
     1. `exists_dropBlankEnd_append`, `isBlank_getLast?`: the blanks that end a text
        are dropped, all of them and nothing else.
     2. `dropBlankEnds_eq_nil_iff`: nothing is left of a text exactly when every
        character of it is blank.
   Correspondence:
     `trim`     ↔ `dropBlankEnds`
     `trim_end` ↔ `dropBlankEnd`, and of a text `trimEnd` -/
namespace SqlBatch.Text

/-- The code points with the property White_Space, as closed ranges. -/
def blankRanges : List (Nat × Nat) :=
  [(0x9, 0xD), (0x20, 0x20), (0x85, 0x85), (0xA0, 0xA0), (0x1680, 0x1680), (0x2000, 0x200A),
   (0x2028, 0x2029), (0x202F, 0x202F), (0x205F, 0x205F), (0x3000, 0x3000)]

/-- The character has the property White_Space. -/
def isBlank (c : Char) : Bool :=
  blankRanges.any fun r => r.1 ≤ c.toNat && c.toNat ≤ r.2

/-- The characters without the blanks that end them. -/
def dropBlankEnd (cs : List Char) : List Char :=
  (cs.reverse.dropWhile isBlank).reverse

/-- The characters without the blanks that start or end them. -/
def dropBlankEnds (cs : List Char) : List Char :=
  dropBlankEnd (cs.dropWhile isBlank)

/-- The text without the blanks that end it. -/
def trimEnd (s : String) : String :=
  String.ofList (dropBlankEnd s.toList)

/-- Only blanks are dropped from the end. -/
theorem exists_dropBlankEnd_append (cs : List Char) :
    ∃ blanks, cs = dropBlankEnd cs ++ blanks ∧ ∀ c ∈ blanks, isBlank c = true := by
  refine ⟨(cs.reverse.takeWhile isBlank).reverse, ?_, fun c hc => ?_⟩
  · rw [dropBlankEnd, ← List.reverse_append, List.takeWhile_append_dropWhile, List.reverse_reverse]
  · exact List.all_eq_true.mp List.all_takeWhile c (List.mem_reverse.mp hc)

/-- None is left there. -/
theorem isBlank_getLast? {cs : List Char} {c : Char} (h : c ∈ (dropBlankEnd cs).getLast?) :
    isBlank c = false := by
  have hfirst := List.head?_dropWhile_not isBlank cs.reverse
  rw [dropBlankEnd, List.getLast?_reverse] at h
  rwa [h] at hfirst

theorem dropBlankEnd_eq_nil_iff (cs : List Char) :
    dropBlankEnd cs = [] ↔ ∀ c ∈ cs, isBlank c = true := by
  obtain ⟨blanks, hsplit, hblank⟩ := exists_dropBlankEnd_append cs
  constructor
  · intro hnil
    rw [hnil, List.nil_append] at hsplit
    rwa [hsplit]
  · intro hall
    refine List.getLast?_eq_none_iff.mp (Option.eq_none_iff_forall_not_mem.mpr fun c hc => ?_)
    have hmem : c ∈ cs := by
      rw [hsplit]
      exact List.mem_append_left _ (List.mem_of_getLast? hc)
    exact absurd (hall c hmem) (by simp [isBlank_getLast? hc])

/-- Nothing is left of a text exactly if it is blank. -/
theorem dropBlankEnds_eq_nil_iff (cs : List Char) :
    dropBlankEnds cs = [] ↔ ∀ c ∈ cs, isBlank c = true := by
  induction cs with
  | nil => simp [dropBlankEnds, dropBlankEnd]
  | cons c cs ih =>
    by_cases h : isBlank c
    · simpa [dropBlankEnds, h] using ih
    · simp [dropBlankEnds, dropBlankEnd_eq_nil_iff, h]

end SqlBatch.Text
