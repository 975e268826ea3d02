/- Parts of texts by their byte indices. A part is cut out between two boundaries of
   the text; at any other index there is nothing to be cut out.
     1. `isBoundary_iff`: in front of a boundary there are the bytes of a prefix of the text.
     2. `slice?_eq_some_iff`: a part is cut out exactly where it stands.
   Correspondence:
     the search of `floor_char_boundary`    ↔ `findBoundary`
     the part of a text between two indices ↔ `slice?` -/
namespace SqlBatch.Text

/-- A character of the text begins at the byte index, or the text ends there. -/
def IsBoundary (s : String) (i : Nat) : Prop := (String.Pos.Raw.mk i).IsValid s

instance (s : String) (i : Nat) : Decidable (IsBoundary s i) :=
  inferInstanceAs (Decidable (String.Pos.Raw.IsValid s _))

theorem isBoundary_iff {s : String} {i : Nat} :
    IsBoundary s i ↔ ∃ t u, s = t ++ u ∧ t.utf8ByteSize = i := by
  simp only [IsBoundary, String.Pos.Raw.isValid_iff_exists_append, String.Pos.Raw.ext_iff,
    String.byteIdx_rawEndPos, eq_comm]

/-- The greatest boundary that is not beyond the index, found by going down from the index. -/
def findBoundary (s : String) (index : Nat) : Nat :=
  if s.utf8ByteSize ≤ index then s.utf8ByteSize
  else ((List.range (index + 1)).reverse.find? fun i => IsBoundary s i).getD 0

/-- The part of the text between two byte indices, none if the second one is less than the first or
    one of them is no boundary. -/
def slice? (s : String) (first last : Nat) : Option String :=
  if h : IsBoundary s first ∧ IsBoundary s last ∧ first ≤ last then
    some (s.slice (s.pos ⟨first⟩ h.1) (s.pos ⟨last⟩ h.2.1) h.2.2).copy
  else none

theorem slice?_eq_some_iff {s part : String} {first last : Nat} :
    slice? s first last = some part ↔ ∃ before behind, s = before ++ part ++ behind ∧
      before.utf8ByteSize = first ∧ (before ++ part).utf8ByteSize = last := by
  constructor
  · intro h
    unfold slice? at h
    split at h
    · obtain ⟨before, behind, hfirst, hlast⟩ :=
        String.copy_slice_eq_iff_splits.mp ⟨_, Option.some.inj h⟩
      refine ⟨before, behind, hlast.eq_append, ?_, ?_⟩
      · exact (congrArg String.Pos.Raw.byteIdx hfirst.offset_eq_rawEndPos).symm
      · exact (congrArg String.Pos.Raw.byteIdx hlast.offset_eq_rawEndPos).symm
    · cases h
  · rintro ⟨before, behind, rfl, rfl, rfl⟩
    have hfirst : IsBoundary (before ++ part ++ behind) before.utf8ByteSize :=
      isBoundary_iff.mpr ⟨before, part ++ behind, String.append_assoc, rfl⟩
    have hlast : IsBoundary (before ++ part ++ behind) (before ++ part).utf8ByteSize :=
      isBoundary_iff.mpr ⟨before ++ part, behind, rfl, rfl⟩
    have hle : before.utf8ByteSize ≤ (before ++ part).utf8ByteSize := by
      rw [String.utf8ByteSize_append]
      exact Nat.le_add_right _ _
    have hbefore : (String.pos _ _ hfirst).Splits before (part ++ behind) :=
      ⟨String.append_assoc, rfl⟩
    have hbehind : (String.pos _ _ hlast).Splits (before ++ part) behind := ⟨rfl, rfl⟩
    obtain ⟨_, hcopy⟩ :=
      String.copy_slice_eq_iff_splits.mpr ⟨before, behind, hbefore, hbehind⟩
    rw [slice?, dif_pos ⟨hfirst, hlast, hle⟩, hcopy]

/-- What stands behind one text and in front of another. -/
theorem slice?_append (before part behind : String) :
    slice? (before ++ part ++ behind) before.utf8ByteSize (before ++ part).utf8ByteSize =
      some part :=
  slice?_eq_some_iff.mpr ⟨before, behind, rfl, rfl, rfl⟩

end SqlBatch.Text
