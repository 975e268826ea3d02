import Mathlib.Order.Bounds.Basic
import SqlBatch.Text.Excerpt
/- Where texts are cut. No character has more than four bytes, so that below every index there is a
   boundary at once, and what stands in front of it is a part of the text.
     1. `isGreatest_findBoundary`: going down from an index ends at the greatest boundary that is
        not beyond it.
     2. `findBoundary_near`: that is at most three bytes below the index, or below the end.
     3. `excerpt?_eq`: an excerpt can be cut out of every text.
     4. `excerpt_between_characters`: what it shows. -/
namespace SqlBatch.Text

/-! Sizes. -/

theorem utf8ByteSize_ofList (cs : List Char) : (String.ofList cs).utf8ByteSize = byteSize cs := by
  induction cs with
  | nil => simp [byteSize]
  | cons c cs ih => simp [byteSize, ih]

theorem byteSize_toList (s : String) : byteSize s.toList = s.utf8ByteSize := by
  rw [← utf8ByteSize_ofList, String.ofList_toList]

/-! Boundaries. -/

/-- The bytes in front of a boundary are those of the first characters. -/
theorem isBoundary_iff_byteSize {s : String} {i : Nat} :
    IsBoundary s i ↔ ∃ cs, cs <+: s.toList ∧ byteSize cs = i := by
  rw [isBoundary_iff]
  constructor
  · rintro ⟨t, u, rfl, rfl⟩
    exact ⟨t.toList, by simp, byteSize_toList t⟩
  · rintro ⟨cs, ⟨ds, hsplit⟩, rfl⟩
    refine ⟨String.ofList cs, String.ofList ds, ?_, utf8ByteSize_ofList cs⟩
    rw [← String.ofList_append, hsplit, String.ofList_toList]

theorem IsBoundary.le {s : String} {i : Nat} (h : IsBoundary s i) : i ≤ s.utf8ByteSize :=
  h.le_utf8ByteSize

theorem isBoundary_zero (s : String) : IsBoundary s 0 :=
  isBoundary_iff_byteSize.mpr ⟨[], List.nil_prefix, rfl⟩

theorem isBoundary_size (s : String) : IsBoundary s s.utf8ByteSize :=
  isBoundary_iff_byteSize.mpr ⟨s.toList, List.prefix_rfl, byteSize_toList s⟩

theorem takeBytes_prefix (cs : List Char) (n : Nat) : takeBytes cs n <+: cs := by
  induction cs generalizing n with
  | nil => exact List.nil_prefix
  | cons c cs ih =>
    rw [takeBytes]
    split
    · exact List.nil_prefix
    · exact (List.prefix_cons_inj c).mpr (ih _)

/-- First characters that do not go beyond the index are among those that are taken. -/
theorem le_floorBoundary {cs ds : List Char} {n : Nat} (hds : ds <+: cs) (hn : byteSize ds ≤ n) :
    byteSize ds ≤ floorBoundary cs n := by
  induction cs generalizing ds n with
  | nil => simp [List.prefix_nil.mp hds, byteSize]
  | cons c cs ih =>
    cases ds with
    | nil => exact Nat.zero_le _
    | cons d ds =>
      obtain ⟨rfl, htail⟩ := List.cons_prefix_cons.mp hds
      rw [byteSize] at hn ⊢
      have hle : byteSize ds ≤ n - d.utf8Size := by omega
      have hrest := ih htail hle
      rw [floorBoundary, if_neg (by omega)]
      omega

/-- What is missing to the index, or to the end, is a part of one character. -/
theorem floorBoundary_near (cs : List Char) (n : Nat) :
    min n (byteSize cs) ≤ floorBoundary cs n + 3 := by
  induction cs generalizing n with
  | nil => simp [byteSize]
  | cons c cs ih =>
    have hsize := c.utf8Size_le_four
    have hrest := ih (n - c.utf8Size)
    rw [byteSize, floorBoundary]
    split <;> omega

theorem isGreatest_floorBoundary (s : String) (i : Nat) :
    IsGreatest {b | IsBoundary s b ∧ b ≤ i} (floorBoundary s.toList i) := by
  refine ⟨⟨isBoundary_iff_byteSize.mpr ?_, floorBoundary_le _ _⟩, ?_⟩
  · exact ⟨takeBytes s.toList i, takeBytes_prefix _ _, byteSize_take _ _⟩
  · rintro b ⟨hb, hle⟩
    obtain ⟨cs, hcs, rfl⟩ := isBoundary_iff_byteSize.mp hb
    exact le_floorBoundary hcs hle

/-- Going down from a number, the first one found is the greatest. -/
theorem isGreatest_of_find? {p : Nat → Bool} {n i : Nat}
    (h : (List.range n).reverse.find? p = some i) : IsGreatest {j | p j = true ∧ j < n} i := by
  induction n with
  | zero => cases h
  | succ n ih =>
    rw [List.range_succ, List.reverse_concat, List.find?_cons] at h
    split at h
    · next hn =>
      cases h
      exact ⟨⟨hn, Nat.lt_succ_self _⟩, fun j hj => Nat.le_of_lt_succ hj.2⟩
    · next hn =>
      obtain ⟨⟨hi, hlt⟩, hgreatest⟩ := ih h
      refine ⟨⟨hi, Nat.lt_succ_of_lt hlt⟩, fun j hj => hgreatest ⟨hj.1, ?_⟩⟩
      have hne : j ≠ n := by
        rintro rfl
        exact Bool.false_ne_true (hn.symm.trans hj.1)
      exact Nat.lt_of_le_of_ne (Nat.le_of_lt_succ hj.2) hne

theorem isGreatest_findBoundary (s : String) (i : Nat) :
    IsGreatest {b | IsBoundary s b ∧ b ≤ i} (findBoundary s i) := by
  unfold findBoundary
  split
  · next hle => exact ⟨⟨isBoundary_size s, hle⟩, fun b hb => hb.1.le⟩
  · have hfound : ((List.range (i + 1)).reverse.find? fun b => IsBoundary s b).isSome = true :=
      List.find?_isSome.mpr ⟨0, by simp, decide_eq_true (isBoundary_zero s)⟩
    obtain ⟨b, hb⟩ := Option.isSome_iff_exists.mp hfound
    simpa [hb, Nat.lt_succ_iff] using isGreatest_of_find? hb

/-- No boundary is beyond the end. -/
theorem isGreatest_findBoundary_min (s : String) (i : Nat) :
    IsGreatest {b | IsBoundary s b ∧ b ≤ min i s.utf8ByteSize} (findBoundary s i) := by
  obtain ⟨⟨hboundary, hle⟩, hgreatest⟩ := isGreatest_findBoundary s i
  refine ⟨⟨hboundary, Nat.le_min.mpr ⟨hle, hboundary.le⟩⟩, fun b hb => ?_⟩
  exact hgreatest ⟨hb.1, hb.2.trans (Nat.min_le_left _ _)⟩

theorem findBoundary_eq (s : String) (i : Nat) : findBoundary s i = floorBoundary s.toList i :=
  (isGreatest_findBoundary s i).unique (isGreatest_floorBoundary s i)

theorem findBoundary_near (s : String) (i : Nat) :
    min i s.utf8ByteSize ≤ findBoundary s i + 3 := by
  rw [findBoundary_eq, ← byteSize_toList]
  exact floorBoundary_near s.toList i

/-! Excerpts. -/

/-- The characters that are taken can be cut out. -/
theorem slice?_findBoundary (s : String) (i : Nat) :
    slice? s 0 (findBoundary s i) = some (String.ofList (takeBytes s.toList i)) := by
  obtain ⟨rest, hsplit⟩ := takeBytes_prefix s.toList i
  refine slice?_eq_some_iff.mpr ⟨"", String.ofList rest, ?_, rfl, ?_⟩
  · rw [String.empty_append, ← String.ofList_append, hsplit, String.ofList_toList]
  · rw [String.empty_append, utf8ByteSize_ofList, byteSize_take, findBoundary_eq]

/-- What is cut out is what the text begins with, up to the boundary. -/
theorem exists_slice?_findBoundary (s : String) (i : Nat) : ∃ part rest, s = part ++ rest ∧
    slice? s 0 (findBoundary s i) = some part ∧ part.utf8ByteSize = findBoundary s i := by
  obtain ⟨before, rest, hsplit, hbefore, hsize⟩ := slice?_eq_some_iff.mp (slice?_findBoundary s i)
  rw [String.utf8ByteSize_eq_zero_iff.mp hbefore, String.empty_append] at hsplit hsize
  exact ⟨_, rest, hsplit, slice?_findBoundary s i, hsize⟩

/-- What a text is without the blanks that end it. -/
theorem exists_trimEnd_append (s : String) : ∃ blanks, s = trimEnd s ++ blanks ∧
    (∀ c ∈ blanks.toList, isBlank c = true) ∧
    ∀ c ∈ (trimEnd s).toList.getLast?, isBlank c = false := by
  have htrim : (trimEnd s).toList = dropBlankEnd s.toList := String.toList_ofList
  obtain ⟨blanks, hsplit, hblank⟩ := exists_dropBlankEnd_append s.toList
  refine ⟨String.ofList blanks, ?_, ?_, fun c hc => isBlank_getLast? (htrim ▸ hc)⟩
  · rw [trimEnd, ← String.ofList_append, ← hsplit, String.ofList_toList]
  · rwa [String.toList_ofList]

/-- An excerpt can be cut out of every text. -/
theorem excerpt?_eq (s : String) : excerpt? s = some (excerpt s) := by
  rw [excerpt?, slice?_findBoundary, excerpt, byteSize_toList, Option.bind_eq_bind,
    Option.bind_some, trimEnd, String.toList_ofList]
  rfl

theorem excerpt_of_slice? {s part : String}
    (h : slice? s 0 (findBoundary s excerptLimit) = some part) :
    excerpt s = trimEnd part ++ if excerptLimit < s.utf8ByteSize then "..." else "" := by
  have hcut := excerpt?_eq s
  rw [excerpt?, h] at hcut
  exact (Option.some.inj hcut).symm

/-- For every text and index the greatest boundary that is beyond neither the index nor the end is
    found, and at most three bytes below them. So an excerpt can be cut out of every text. It shows
    what the text begins with, at most 497 bytes and no blank in front of the cut, with three dots
    exactly if the text has more bytes than that. Of any other text only the blanks that end it are
    left out. -/
theorem excerpt_between_characters (s : String) :
    (∀ i, IsGreatest {b | IsBoundary s b ∧ b ≤ min i s.utf8ByteSize} (findBoundary s i) ∧
      min i s.utf8ByteSize ≤ findBoundary s i + 3) ∧
    excerpt? s = some (excerpt s) ∧
    ∃ kept blanks rest, s = kept ++ blanks ++ rest ∧
      excerpt s = kept ++ (if 497 < s.utf8ByteSize then "..." else "") ∧
      (kept ++ blanks).utf8ByteSize = findBoundary s 497 ∧ kept.utf8ByteSize ≤ 497 ∧
      (∀ c ∈ blanks.toList, isBlank c = true) ∧ (∀ c ∈ kept.toList.getLast?, isBlank c = false) ∧
      (rest = "" ↔ s.utf8ByteSize ≤ 497) := by
  refine ⟨fun i => ⟨isGreatest_findBoundary_min s i, findBoundary_near s i⟩, excerpt?_eq s, ?_⟩
  obtain ⟨part, rest, hsplit, hpart, hsize⟩ := exists_slice?_findBoundary s 497
  obtain ⟨blanks, hblanks, hblank, hlast⟩ := exists_trimEnd_append part
  have hle : part.utf8ByteSize ≤ 497 := hsize ▸ (isGreatest_findBoundary s 497).1.2
  have htotal : s.utf8ByteSize = part.utf8ByteSize + rest.utf8ByteSize := by
    rw [hsplit, String.utf8ByteSize_append]
  refine ⟨trimEnd part, blanks, rest, by rw [← hblanks, hsplit], excerpt_of_slice? hpart,
    by rw [← hblanks, hsize], ?_, hblank, hlast, fun hrest => ?_, fun hshort => ?_⟩
  · rw [hblanks, String.utf8ByteSize_append] at hle
    omega
  · rw [htotal, hrest]
    exact hle
  · rw [findBoundary, if_pos hshort] at hsize
    exact String.utf8ByteSize_eq_zero_iff.mp (by omega)

/-- An index inside of a character, and a text that fits but for the blanks that end it. -/
theorem excerpt_between_characters_fitting :
    IsGreatest {b | IsBoundary "a€ \n" b ∧ b ≤ min 3 "a€ \n".utf8ByteSize} 1 ∧
    "a€ \n".utf8ByteSize ≤ 497 ∧
    ∃ kept blanks, "a€ \n" = kept ++ blanks ∧ excerpt? "a€ \n" = some kept ∧
      ∀ c ∈ blanks.toList, isBlank c = true := by
  obtain ⟨hcut, hsome, kept, blanks, rest, hsplit, hexcerpt, -, -, hblank, -, hrest⟩ :=
    excerpt_between_characters "a€ \n"
  have hfound : findBoundary "a€ \n" 3 = 1 := by decide
  have hfits : "a€ \n".utf8ByteSize ≤ 497 := by decide
  rw [if_neg (Nat.not_lt.mpr hfits), String.append_empty] at hexcerpt
  rw [hrest.mpr hfits, String.append_empty] at hsplit
  exact ⟨hfound ▸ (hcut 3).1, hfits, kept, blanks, hsplit, hsome.trans (congrArg some hexcerpt),
    hblank⟩

end SqlBatch.Text
