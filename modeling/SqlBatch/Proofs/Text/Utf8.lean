import Mathlib.Data.List.Basic
import SqlBatch.Text.Utf8
/- What the strict decoder accepts. Bytes are read as a text exactly if they are the bytes of that
   text, so that each text has one form as bytes, and what no text has as its bytes is refused.
     1. `firstByte_eq`: how many bytes go with a first one, and which the second may be.
     2. `decodeFrom_encoded`, `exists_encoded`: the decoder takes the bytes of one character after
        the other, and nothing else.
     3. `ofUtf8?_eq_some_iff`, `utf8_injective`: the whole of the bytes. -/
namespace SqlBatch.Text

/-- The least second byte. A smaller one would spell a character that has a shorter form. -/
def leastSecond (b : Nat) : Nat := if b = 0xE0 then 0xA0 else if b = 0xF0 then 0x90 else 0x80

/-- The greatest second byte. A greater one would spell half of a pair, or no character at all. -/
def greatestSecond (b : Nat) : Nat := if b = 0xED then 0x9F else if b = 0xF4 then 0x8F else 0xBF

/-- The state behind a first byte of several. -/
def DecoderState.behind (missing offset b : Nat) : DecoderState :=
  .inside missing (leastSecond b) (greatestSecond b) (b - offset)

theorem firstByte_eq (b : Nat) : firstByte b =
    if b < 0x80 then .emit (Char.ofNat b)
    else if 0xC2 ≤ b ∧ b ≤ 0xDF then .more (.behind 0 0xC0 b)
    else if 0xE0 ≤ b ∧ b ≤ 0xEF then .more (.behind 1 0xE0 b)
    else if 0xF0 ≤ b ∧ b ≤ 0xF4 then .more (.behind 2 0xF0 b)
    else .fault := by
  unfold firstByte DecoderState.behind leastSecond greatestSecond
  grind

/-! One byte. -/

section Steps

variable {b : UInt8} {bs : List UInt8} {cs : List Char} {missing low high code : Nat}

theorem decodeFrom_last (hlow : low ≤ b.toNat) (hhigh : b.toNat ≤ high) :
    decodeFrom (.inside 0 low high code) (b :: bs) =
      (decodeFrom .start bs).map (Char.ofNat (code * 64 + (b.toNat - 0x80)) :: ·) := by
  simp [decodeFrom, DecoderState.step, hlow, hhigh]

theorem decodeFrom_more (hlow : low ≤ b.toNat) (hhigh : b.toNat ≤ high) :
    decodeFrom (.inside (missing + 1) low high code) (b :: bs) =
      decodeFrom (.inside missing 0x80 0xBF (code * 64 + (b.toNat - 0x80))) bs := by
  simp [decodeFrom, DecoderState.step, hlow, hhigh]

/-- Inside of a character there is a byte of the range, and it is taken. -/
theorem exists_of_inside (h : decodeFrom (.inside missing low high code) bs = some cs) :
    ∃ b rest, bs = b :: rest ∧ low ≤ b.toNat ∧ b.toNat ≤ high := by
  cases bs with
  | nil => simp [decodeFrom] at h
  | cons b rest =>
    refine ⟨b, rest, rfl, ?_⟩
    by_contra hout
    simp [decodeFrom, DecoderState.step, hout] at h

end Steps

/-! The bytes of a character. -/

section Characters

variable {c : Char} {b : UInt8} {bs : List UInt8} {cs : List Char} {state : DecoderState}

theorem decodeFrom_start (h : firstByte b.toNat = .more state) :
    decodeFrom .start (b :: bs) = decodeFrom state bs := by
  simp [decodeFrom, DecoderState.step, h]

theorem behind_of_two {n : Nat} (hlow : 0xC2 ≤ n) (hhigh : n ≤ 0xDF) :
    firstByte n = .more (.inside 0 0x80 0xBF (n - 0xC0)) := by
  rw [firstByte_eq, DecoderState.behind, leastSecond, greatestSecond]
  grind

theorem behind_of_three {n : Nat} (hlow : 0xE0 ≤ n) (hhigh : n ≤ 0xEF) :
    firstByte n = .more (.behind 1 0xE0 n) := by
  rw [firstByte_eq]
  grind

theorem behind_of_four {n : Nat} (hlow : 0xF0 ≤ n) (hhigh : n ≤ 0xF4) :
    firstByte n = .more (.behind 2 0xF0 n) := by
  rw [firstByte_eq]
  grind

/-- The bytes of a character are taken as the character. -/
theorem decodeFrom_encoded (c : Char) (bs : List UInt8) :
    decodeFrom .start (String.utf8EncodeChar c ++ bs) = (decodeFrom .start bs).map (c :: ·) := by
  have hvalid : c.val.toNat < 0xD800 ∨ 0xDFFF < c.val.toNat ∧ c.val.toNat < 0x110000 := c.valid
  have hbyte {n : Nat} (h : n < 256) : (UInt8.ofNat n).toNat = n := UInt8.toNat_ofNat_of_lt' h
  have hread {n : Nat} (h : n = c.val.toNat) :
      (decodeFrom .start bs).map (Char.ofNat n :: ·) = (decodeFrom .start bs).map (c :: ·) := by
    rw [h]
    exact congrArg (fun d => (decodeFrom .start bs).map (d :: ·)) (Char.ofNat_toNat c)
  unfold String.utf8EncodeChar
  simp only
  split
  · next h =>
    have hb := hbyte (n := c.val.toNat) (by omega)
    have hfirst : firstByte c.val.toNat = .emit (Char.ofNat c.val.toNat) := by
      rw [firstByte_eq, if_pos (by omega)]
    simp only [List.cons_append, List.nil_append, decodeFrom, DecoderState.step, hb, hfirst]
    exact hread rfl
  · split
    · next h =>
      have hb0 := hbyte (n := c.val.toNat / 64 % 32 + 192) (by omega)
      have hb1 := hbyte (n := c.val.toNat % 64 + 128) (by omega)
      simp only [List.cons_append, List.nil_append]
      rw [decodeFrom_start (behind_of_two (by omega) (by omega)),
        decodeFrom_last (by omega) (by omega)]
      exact hread (by omega)
    · split
      · next h =>
        have hb0 := hbyte (n := c.val.toNat / 4096 % 16 + 224) (by omega)
        have hb1 := hbyte (n := c.val.toNat / 64 % 64 + 128) (by omega)
        have hb2 := hbyte (n := c.val.toNat % 64 + 128) (by omega)
        simp only [List.cons_append, List.nil_append]
        rw [decodeFrom_start (behind_of_three (by omega) (by omega)), DecoderState.behind,
          decodeFrom_more (by unfold leastSecond; grind) (by unfold greatestSecond; grind),
          decodeFrom_last (by omega) (by omega)]
        exact hread (by omega)
      · have hb0 := hbyte (n := c.val.toNat / 262144 % 8 + 240) (by omega)
        have hb1 := hbyte (n := c.val.toNat / 4096 % 64 + 128) (by omega)
        have hb2 := hbyte (n := c.val.toNat / 64 % 64 + 128) (by omega)
        have hb3 := hbyte (n := c.val.toNat % 64 + 128) (by omega)
        simp only [List.cons_append, List.nil_append]
        rw [decodeFrom_start (behind_of_four (by omega) (by omega)), DecoderState.behind,
          decodeFrom_more (by unfold leastSecond; grind) (by unfold greatestSecond; grind),
          decodeFrom_more (by omega) (by omega),
          decodeFrom_last (by omega) (by omega)]
        exact hread (by omega)

theorem ofNat_eq {n : Nat} (h : n = b.toNat) : UInt8.ofNat n = b := by
  rw [h, UInt8.ofNat_toNat]

theorem toNat_char {n : Nat} (h : n.isValidChar) : (Char.ofNat n).val.toNat = n := by
  rw [Char.ofNat, dif_pos h]
  rfl

/-! The character that bytes spell is written with these bytes. -/

theorem encode_one (hb : b.toNat < 0x80) :
    String.utf8EncodeChar (Char.ofNat b.toNat) = [b] := by
  have hvalid : b.toNat.isValidChar := by left; omega
  simp only [String.utf8EncodeChar, toNat_char hvalid]
  rw [if_pos (by omega), UInt8.ofNat_toNat]

theorem encode_two {b1 : UInt8} (hb : 0xC2 ≤ b.toNat ∧ b.toNat ≤ 0xDF)
    (hb1 : 0x80 ≤ b1.toNat ∧ b1.toNat ≤ 0xBF) :
    String.utf8EncodeChar (Char.ofNat ((b.toNat - 0xC0) * 64 + (b1.toNat - 0x80))) = [b, b1] := by
  generalize hn : (b.toNat - 0xC0) * 64 + (b1.toNat - 0x80) = n
  have hvalid : n.isValidChar := by left; omega
  simp only [String.utf8EncodeChar, toNat_char hvalid]
  rw [if_neg (by omega), if_pos (by omega), ofNat_eq (b := b) (by omega),
    ofNat_eq (b := b1) (by omega)]

theorem encode_three {b1 b2 : UInt8} (hb : 0xE0 ≤ b.toNat ∧ b.toNat ≤ 0xEF)
    (hb1 : leastSecond b.toNat ≤ b1.toNat ∧ b1.toNat ≤ greatestSecond b.toNat)
    (hb2 : 0x80 ≤ b2.toNat ∧ b2.toNat ≤ 0xBF) :
    String.utf8EncodeChar (Char.ofNat
      (((b.toNat - 0xE0) * 64 + (b1.toNat - 0x80)) * 64 + (b2.toNat - 0x80))) = [b, b1, b2] := by
  generalize hn : ((b.toNat - 0xE0) * 64 + (b1.toNat - 0x80)) * 64 + (b2.toNat - 0x80) = n
  unfold leastSecond greatestSecond at hb1
  have hrange : 0x800 ≤ n ∧ n ≤ 0xFFFF := by grind
  have hvalid : n.isValidChar := by unfold Nat.isValidChar; grind
  have hsecond : 0x80 ≤ b1.toNat ∧ b1.toNat ≤ 0xBF := by grind
  simp only [String.utf8EncodeChar, toNat_char hvalid]
  rw [if_neg (by omega), if_neg (by omega), if_pos (by omega), ofNat_eq (b := b) (by omega),
    ofNat_eq (b := b1) (by omega), ofNat_eq (b := b2) (by omega)]

theorem encode_four {b1 b2 b3 : UInt8} (hb : 0xF0 ≤ b.toNat ∧ b.toNat ≤ 0xF4)
    (hb1 : leastSecond b.toNat ≤ b1.toNat ∧ b1.toNat ≤ greatestSecond b.toNat)
    (hb2 : 0x80 ≤ b2.toNat ∧ b2.toNat ≤ 0xBF) (hb3 : 0x80 ≤ b3.toNat ∧ b3.toNat ≤ 0xBF) :
    String.utf8EncodeChar (Char.ofNat
      ((((b.toNat - 0xF0) * 64 + (b1.toNat - 0x80)) * 64 + (b2.toNat - 0x80)) * 64 +
        (b3.toNat - 0x80))) = [b, b1, b2, b3] := by
  generalize hn : (((b.toNat - 0xF0) * 64 + (b1.toNat - 0x80)) * 64 + (b2.toNat - 0x80)) * 64 +
    (b3.toNat - 0x80) = n
  unfold leastSecond greatestSecond at hb1
  have hrange : 0x10000 ≤ n ∧ n ≤ 0x10FFFF := by grind
  have hvalid : n.isValidChar := by right; omega
  have hsecond : 0x80 ≤ b1.toNat ∧ b1.toNat ≤ 0xBF := by grind
  simp only [String.utf8EncodeChar, toNat_char hvalid]
  rw [if_neg (by omega), if_neg (by omega), if_neg (by omega), ofNat_eq (b := b) (by omega),
    ofNat_eq (b := b1) (by omega), ofNat_eq (b := b2) (by omega), ofNat_eq (b := b3) (by omega)]

/-- What is taken first is a character whose bytes were there. -/
theorem exists_encoded (h : decodeFrom .start (b :: bs) = some cs) :
    ∃ c cs' rest, cs = c :: cs' ∧ b :: bs = String.utf8EncodeChar c ++ rest ∧
      decodeFrom .start rest = some cs' := by
  have hclass := firstByte_eq b.toNat
  split at hclass
  · next hb =>
    simp only [decodeFrom, DecoderState.step, hclass, Option.map_eq_some_iff] at h
    obtain ⟨cs', hcs', rfl⟩ := h
    exact ⟨_, cs', bs, rfl, by rw [encode_one hb]; rfl, hcs'⟩
  split at hclass
  · next hb =>
    rw [decodeFrom_start hclass, DecoderState.behind] at h
    obtain ⟨b1, rest, rfl, hb1⟩ := exists_of_inside h
    rw [decodeFrom_last hb1.1 hb1.2, Option.map_eq_some_iff] at h
    obtain ⟨cs', hcs', rfl⟩ := h
    unfold leastSecond greatestSecond at hb1
    exact ⟨_, cs', rest, rfl, by rw [encode_two hb (by grind)]; rfl, hcs'⟩
  split at hclass
  · next hb =>
    rw [decodeFrom_start hclass, DecoderState.behind] at h
    obtain ⟨b1, rest, rfl, hb1⟩ := exists_of_inside h
    rw [decodeFrom_more hb1.1 hb1.2] at h
    obtain ⟨b2, rest, rfl, hb2⟩ := exists_of_inside h
    rw [decodeFrom_last hb2.1 hb2.2, Option.map_eq_some_iff] at h
    obtain ⟨cs', hcs', rfl⟩ := h
    exact ⟨_, cs', rest, rfl, by rw [encode_three hb hb1 hb2]; rfl, hcs'⟩
  split at hclass
  · next hb =>
    rw [decodeFrom_start hclass, DecoderState.behind] at h
    obtain ⟨b1, rest, rfl, hb1⟩ := exists_of_inside h
    rw [decodeFrom_more hb1.1 hb1.2] at h
    obtain ⟨b2, rest, rfl, hb2⟩ := exists_of_inside h
    rw [decodeFrom_more hb2.1 hb2.2] at h
    obtain ⟨b3, rest, rfl, hb3⟩ := exists_of_inside h
    rw [decodeFrom_last hb3.1 hb3.2, Option.map_eq_some_iff] at h
    obtain ⟨cs', hcs', rfl⟩ := h
    exact ⟨_, cs', rest, rfl, by rw [encode_four hb hb1 hb2 hb3]; rfl, hcs'⟩
  · simp [decodeFrom, DecoderState.step, hclass] at h

end Characters

/-! The whole of the bytes. -/

theorem decodeFrom_flatMap (cs : List Char) :
    decodeFrom .start (cs.flatMap String.utf8EncodeChar) = some cs := by
  induction cs with
  | nil => rfl
  | cons c cs ih => rw [List.flatMap_cons, decodeFrom_encoded, ih, Option.map_some]

theorem eq_flatMap_of_decodeFrom {bs : List UInt8} {cs : List Char}
    (h : decodeFrom .start bs = some cs) : bs = cs.flatMap String.utf8EncodeChar := by
  -- A character is taken with at least one byte, so that fewer bytes are left.
  induction hlength : bs.length using Nat.strongRecOn generalizing bs cs with
  | ind n ih =>
    cases bs with
    | nil =>
      cases h
      rfl
    | cons b bs =>
      obtain ⟨c, cs', rest, rfl, hbs, hrest⟩ := exists_encoded h
      have hshorter : rest.length < n := by
        have hpos := c.utf8Size_pos
        rw [← hlength, hbs, List.length_append, String.length_utf8EncodeChar]
        omega
      rw [hbs, List.flatMap_cons, ih _ hshorter hrest rfl]

/-- Bytes are read as a text exactly if they are its bytes. -/
theorem ofUtf8?_eq_some_iff (bs : List UInt8) (s : String) : ofUtf8? bs = some s ↔ bs = utf8 s := by
  rw [ofUtf8?, utf8, Option.map_eq_some_iff]
  constructor
  · rintro ⟨cs, hcs, rfl⟩
    rw [String.toList_ofList]
    exact eq_flatMap_of_decodeFrom hcs
  · rintro rfl
    exact ⟨s.toList, decodeFrom_flatMap _, String.ofList_toList⟩

/-- Texts with the same bytes are the same. -/
theorem utf8_injective {s t : String} (h : utf8 s = utf8 t) : s = t := by
  have hs := (ofUtf8?_eq_some_iff _ s).mpr rfl
  rw [h, (ofUtf8?_eq_some_iff _ t).mpr rfl] at hs
  exact (Option.some.inj hs).symm

end SqlBatch.Text
