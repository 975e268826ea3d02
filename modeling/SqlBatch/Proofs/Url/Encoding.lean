import Mathlib.Data.List.TakeWhile
import SqlBatch.Config.Reading
import SqlBatch.MySql.Options
import SqlBatch.Proofs.Text.Utf8
/- Names in addresses. A name is spelled in an address by encoding each of its bytes that is not
   that of a letter, a digit or one of four marks.
     1. `decode_encodeName`, `encodeName_eq_self_iff`: every name can be read back from its
        spelling, and the spelling is the name itself only if nothing had to be encoded.
     2. `parse_segment`: an address keeps a segment of its path as it is written, unless it has
        characters to encode or stands for dots.
     3. `parse_address`: the path of the address of a name is the spelling of the name. -/
namespace SqlBatch

namespace Url

/-- The byte stands for itself in every part of an address. -/
def isUnreserved (b : UInt8) : Bool :=
  let c := Char.ofNat b.toNat
  c.isAlphanum || ['-', '.', '_', '~'].contains c

/-- The characters for a byte. -/
def spell (b : UInt8) : List Char :=
  if isUnreserved b then [Char.ofNat b.toNat] else encodeByte b

/-- The name as an address spells it. -/
def encodeName (name : String) : String := String.ofList ((Text.utf8 name).flatMap spell)

/-- The address of a database. -/
def address (name : String) : String := "mysql://host/" ++ encodeName name

/-! The bytes one after the other. -/

section Bytes

variable {b : UInt8} {n : Nat}

/-- What holds of all numbers up to 255 holds of all bytes. -/
theorem forall_byte {P : UInt8 → Prop} (h : ∀ n < 256, P (UInt8.ofNat n)) (b : UInt8) : P b := by
  have hb := h b.toNat b.toNat_lt
  rwa [UInt8.ofNat_toNat] at hb

/-- A byte that stands for itself is no percent sign, and a character of its own. -/
theorem lt_of_isUnreserved (h : isUnreserved b = true) : b.toNat < 0x80 ∧ b ≠ 0x25 :=
  forall_byte (P := fun b => isUnreserved b = true → b.toNat < 0x80 ∧ b ≠ 0x25)
    (by decide +kernel) b h

/-- The byte of a digit of an encoded byte. -/
theorem exists_digit (h : n < 16) :
    ∃ d : UInt8, String.utf8EncodeChar (Text.hexDigit n).toUpper = [d] ∧
      Text.hexValue? (Char.ofNat d.toNat) = some n := by
  have hall : ∀ m < 16, (String.utf8EncodeChar (Text.hexDigit m).toUpper).length = 1 ∧
      (String.utf8EncodeChar (Text.hexDigit m).toUpper).map
        (fun d => Text.hexValue? (Char.ofNat d.toNat)) = [some m] := by decide
  obtain ⟨hone, hvalue⟩ := hall n h
  obtain ⟨d, hd⟩ := List.length_eq_one_iff.mp hone
  rw [hd] at hvalue
  exact ⟨d, hd, (List.cons.inj hvalue).1⟩

theorem utf8_spell (h : isUnreserved b = true) :
    (spell b).flatMap String.utf8EncodeChar = [b] := by
  rw [spell, if_pos h, List.flatMap_singleton, Text.encode_one (lt_of_isUnreserved h).1]

theorem exists_utf8_spell (h : ¬ isUnreserved b = true) :
    ∃ high low : UInt8, (spell b).flatMap String.utf8EncodeChar = [0x25, high, low] ∧
      Text.hexValue? (Char.ofNat high.toNat) = some (b.toNat / 16) ∧
      Text.hexValue? (Char.ofNat low.toNat) = some (b.toNat % 16) := by
  have hb := b.toNat_lt
  obtain ⟨high, hhigh, hhighValue⟩ := exists_digit (n := b.toNat / 16) (by omega)
  obtain ⟨low, hlow, hlowValue⟩ := exists_digit (n := b.toNat % 16) (by omega)
  refine ⟨high, low, ?_, hhighValue, hlowValue⟩
  have hpercent : String.utf8EncodeChar '%' = [0x25] := by decide
  rw [spell, if_neg h, encodeByte, Text.hexByte]
  simp [hpercent, hhigh, hlow]

theorem decode_cons_of_ne (h : b ≠ 0x25) (bs : List UInt8) : decode (b :: bs) = b :: decode bs := by
  match bs with
  | [] => rfl
  | [_] => rfl
  | _ :: _ :: _ => rw [decode, if_neg h]

/-- A byte is read back from its characters. -/
theorem decode_spell (b : UInt8) (bs : List UInt8) :
    decode ((spell b).flatMap String.utf8EncodeChar ++ bs) = b :: decode bs := by
  by_cases h : isUnreserved b = true
  · rw [utf8_spell h]
    exact decode_cons_of_ne (lt_of_isUnreserved h).2 bs
  · obtain ⟨high, low, hbytes, hhigh, hlow⟩ := exists_utf8_spell h
    rw [hbytes, List.cons_append, List.cons_append, List.cons_append, List.nil_append, decode,
      if_pos rfl, hhigh, hlow]
    simp only [Nat.div_add_mod, UInt8.ofNat_toNat]

/-- The characters for a byte are three where it is encoded. -/
theorem length_spell (b : UInt8) : ((spell b).flatMap String.utf8EncodeChar).length =
    if isUnreserved b then 1 else 3 := by
  split
  · next h => rw [utf8_spell h]; rfl
  · next h =>
    obtain ⟨high, low, hbytes, -, -⟩ := exists_utf8_spell h
    rw [hbytes]
    rfl

end Bytes

/-! Names from their spellings. -/

section Names

variable {name name' : String}

theorem utf8_encodeName (name : String) : Text.utf8 (encodeName name) =
    (Text.utf8 name).flatMap fun b => (spell b).flatMap String.utf8EncodeChar := by
  rw [Text.utf8, encodeName, String.toList_ofList, List.flatMap_assoc]

/-- The bytes of a name are those that its spelling decodes to. -/
theorem decode_encodeName (name : String) :
    decode (Text.utf8 (encodeName name)) = Text.utf8 name := by
  rw [utf8_encodeName]
  induction Text.utf8 name with
  | nil => rfl
  | cons b bs ih => rw [List.flatMap_cons, decode_spell, ih]

/-- Every name can be told from its spelling. -/
theorem ofUtf8?_decode_encodeName (name : String) :
    Text.ofUtf8? (decode (Text.utf8 (encodeName name))) = some name :=
  (Text.ofUtf8?_eq_some_iff _ _).mpr (decode_encodeName name)

theorem encodeName_injective (h : encodeName name = encodeName name') : name = name' := by
  apply Text.utf8_injective
  rw [← decode_encodeName name, h, decode_encodeName]

/-- A spelling is longer than the name by two bytes for every byte that is encoded. -/
theorem length_utf8_encodeName (name : String) : (Text.utf8 (encodeName name)).length =
    (Text.utf8 name).length + 2 * (Text.utf8 name).countP fun b => !isUnreserved b := by
  rw [utf8_encodeName]
  induction Text.utf8 name with
  | nil => rfl
  | cons b bs ih =>
    rw [List.flatMap_cons, List.length_append, ih, length_spell, List.countP_cons, List.length_cons]
    cases isUnreserved b <;> simp <;> omega

/-- A name is its own spelling exactly if nothing in it is encoded. -/
theorem encodeName_eq_self_iff (name : String) :
    encodeName name = name ↔ ∀ b ∈ Text.utf8 name, isUnreserved b = true := by
  have hnone : ((Text.utf8 name).countP fun b => !isUnreserved b) = 0 ↔
      ∀ b ∈ Text.utf8 name, isUnreserved b = true := by
    simp [List.countP_eq_zero]
  rw [← hnone]
  constructor
  · intro h
    have hlength := length_utf8_encodeName name
    rw [h] at hlength
    omega
  · intro h
    have hone : ∀ b ∈ Text.utf8 name, (spell b).flatMap String.utf8EncodeChar = [b] :=
      fun b hb => utf8_spell (hnone.mp h b hb)
    apply Text.utf8_injective
    rw [utf8_encodeName, List.flatMap_congr hone, List.flatMap_singleton']

end Names

/-! Segments as they are written. -/

/-- The character stands for itself in a segment of a path and does not end it. -/
def isPlain (c : Char) : Bool := !isPathEncoded c && c ≠ '/'

section Segments

variable {c : Char} {cs : List Char}

/-- A character that an address neither drops nor encodes, and at which it does not part. -/
structure Plain (c : Char) : Prop where
  visible : ¬ c.toNat ≤ 0x20
  inPath : endsPath c = false
  notSlash : isSlash false c = false
  kept : isPathEncoded c = false

theorem plain_of_isPlain (h : isPlain c = true) : Plain c := by
  simp only [isPlain, isPathEncoded, Bool.and_eq_true, Bool.not_eq_true', Bool.or_eq_false_iff,
    decide_eq_false_iff_not, decide_eq_true_eq] at h
  obtain ⟨⟨⟨hvisible, hascii⟩, hmarks⟩, hslash⟩ := h
  simp only [List.contains_eq_mem, List.mem_cons, List.not_mem_nil, or_false, not_or,
    decide_eq_false_iff_not] at hmarks
  exact {
    visible := hvisible
    inPath := by simp [endsPath, hmarks]
    notSlash := by simp [isSlash, hslash]
    kept := by simp [isPathEncoded, hvisible, hascii, hmarks] }

theorem not_isBreak (h : ¬ c.toNat ≤ 0x20) : isBreak c = false := by
  have hne (d : Char) (hd : d.toNat ≤ 0x20) : c ≠ d := fun e => h (e ▸ hd)
  simp [isBreak, hne '\t' (by decide), hne '\n' (by decide), hne '\r' (by decide)]

/-- Nothing is dropped from characters of which all can be seen. -/
theorem bare_eq_self (h : ∀ c ∈ cs, ¬ c.toNat ≤ 0x20) : bare cs = cs := by
  have hkept {l : List Char} (hl : ∀ c ∈ l, c ∈ cs) :
      l.dropWhile (fun c => decide (c.toNat ≤ 0x20)) = l :=
    List.dropWhile_eq_self_iff.mpr fun hpos => by simpa using h _ (hl _ (List.getElem_mem hpos))
  rw [bare, hkept fun c hc => hc, hkept fun c hc => List.mem_reverse.mp hc, List.reverse_reverse]

theorem unbroken_eq_self (h : ∀ c ∈ cs, ¬ c.toNat ≤ 0x20) : unbroken cs = cs :=
  List.filter_eq_self.mpr fun c hc => by simp [not_isBreak (h c hc)]

theorem splitPath_eq_singleton (h : ∀ c ∈ cs, isSlash false c = false) :
    splitPath false cs = [cs] := by
  induction cs with
  | nil => rfl
  | cons c cs ih =>
    rw [splitPath, if_neg (by simp [h c]), ih fun c hc => h c (List.mem_cons_of_mem _ hc)]

theorem encodeSegment_eq_self (h : ∀ c ∈ cs, isPathEncoded c = false) : encodeSegment cs = cs := by
  have hone : ∀ c ∈ cs, (if isPathEncoded c then (String.utf8EncodeChar c).flatMap encodeByte
      else [c]) = [c] := fun c hc => if_neg (by simp [h c hc])
  rw [encodeSegment, List.flatMap_congr hone, List.flatMap_singleton']

/-- Plain characters are a path of one segment, if that one does not stand for dots. -/
theorem pathSegments_plain (h : ∀ c ∈ cs, Plain c) (hdot : plainDots cs ≠ ['.'])
    (hdots : plainDots cs ≠ ['.', '.']) : pathSegments false cs = [cs] := by
  have hpath : cs.takeWhile (fun c => !endsPath c) = cs :=
    List.takeWhile_eq_self_iff.mpr fun c hc => by simp [(h c hc).inPath]
  have hunbroken := unbroken_eq_self fun c hc => (h c hc).visible
  have hresolved : resolveDots false [] [cs] = [cs] := by
    rw [resolveDots, hunbroken]
    split
    · contradiction
    · contradiction
    · simp [resolveDots, named, hunbroken]
  rw [pathSegments, hpath, splitPath_eq_singleton fun c hc => (h c hc).notSlash, hresolved,
    List.map_singleton, encodeSegment_eq_self fun c hc => (h c hc).kept]

/-- Without a mark that ends the path there is no query. -/
theorem queryOf_eq_none (h : ∀ c ∈ cs, endsPath c = false) : queryOf cs = none := by
  have hnone : cs.dropWhile (fun c => !endsPath c) = [] :=
    List.dropWhile_eq_nil_iff.mpr fun c hc => by simp [h c hc]
  rw [queryOf, hnone]

/-- An address keeps a segment of plain characters as it is written. -/
theorem parse_segment (h : ∀ c ∈ cs, Plain c) (hdot : plainDots cs ≠ ['.'])
    (hdots : plainDots cs ≠ ['.', '.']) :
    parse ("mysql://host/" ++ String.ofList cs) =
      .ok ⟨"mysql", true, some [String.ofList cs], none⟩ := by
  have hhost : ∀ c ∈ "mysql://host/".toList, ¬ c.toNat ≤ 0x20 := by simp
  have hvisible : ∀ c ∈ "mysql://host/".toList ++ cs, ¬ c.toNat ≤ 0x20 :=
    List.forall_mem_append.mpr ⟨hhost, fun c hc => (h c hc).visible⟩
  have hquery : queryOf ('/' :: cs) = none :=
    queryOf_eq_none (List.forall_mem_cons.mpr ⟨rfl, fun c hc => (h c hc).inPath⟩)
  -- What stands before the segment is read by computation, whatever the segment is.
  have hscheme : splitScheme? ("mysql://host/".toList ++ cs) =
      some ("mysql", "//host/".toList ++ cs) := rfl
  have hauthority : ofAuthority "mysql" false ("host/".toList ++ cs) =
      .ok (ofPath "mysql" true (some (pathSegments false cs)) ('/' :: cs)) := rfl
  simp only [parse, String.toList_append, String.toList_ofList, bare_eq_self hvisible,
    unbroken_eq_self hvisible, hscheme]
  rw [if_neg (by decide), if_neg (by decide)]
  exact hauthority.trans (by rw [ofPath, pathSegments_plain h hdot hdots, hquery]; rfl)

end Segments

/-! Addresses of names. -/

section Addresses

variable {name : String} {c : Char} {cs : List Char} {b : UInt8}

theorem plain_encodeName (name : String) : ∀ c ∈ (encodeName name).toList, Plain c := by
  rw [encodeName, String.toList_ofList]
  intro c hc
  obtain ⟨b, -, hb⟩ := List.mem_flatMap.mp hc
  have hall : (spell b).all isPlain = true :=
    forall_byte (P := fun b => (spell b).all isPlain = true) (by decide +kernel) b
  exact plain_of_isPlain (List.all_eq_true.mp hall c hb)

/-- A character that does not begin an encoded dot stays. -/
theorem plainDots_cons
    (h : ∀ e rest, c :: cs = '%' :: '2' :: e :: rest → e ≠ 'e' ∧ e ≠ 'E') :
    plainDots (c :: cs) = c :: plainDots cs := by
  rw [plainDots.eq_def]
  split
  · next e rest heq =>
    obtain ⟨rfl, rfl⟩ := List.cons.inj heq
    have htwo : plainDots ('2' :: e :: rest) = '2' :: plainDots (e :: rest) :=
      plainDots.eq_2 '2' (e :: rest) (by simp)
    rw [if_neg (by simp [h e rest rfl]), htwo]
  · next heq => rw [(List.cons.inj heq).1, (List.cons.inj heq).2]
  · next heq => cases heq

/-- The digits of an encoded byte are no percent signs, and together those of the dot only for the
    dot itself. -/
theorem digits_not_dot (h : isUnreserved b = false) :
    ∃ high low, encodeByte b = ['%', high, low] ∧ high ≠ '%' ∧ low ≠ '%' ∧
      (high = '2' → low ≠ 'e' ∧ low ≠ 'E') := by
  have hall : ∀ n < 16, (Text.hexDigit n).toUpper ≠ '%' ∧ (Text.hexDigit n).toUpper ≠ 'e' ∧
      ((Text.hexDigit n).toUpper = '2' → n = 2) ∧ ((Text.hexDigit n).toUpper = 'E' → n = 14) := by
    decide
  have hb := b.toNat_lt
  obtain ⟨hhigh, -, htwo, -⟩ := hall (b.toNat / 16) (by omega)
  obtain ⟨hlow, hlower, -, hupper⟩ := hall (b.toNat % 16) (by omega)
  refine ⟨_, _, rfl, hhigh, hlow, fun hh => ⟨hlower, fun hl => ?_⟩⟩
  have hdot : b = 0x2E := UInt8.toNat_inj.mp (by have := htwo hh; have := hupper hl; simp; omega)
  subst hdot
  cases h

theorem plainDots_spell (b : UInt8) (cs : List Char) :
    plainDots (spell b ++ cs) = spell b ++ plainDots cs := by
  have hstays {c : Char} {cs : List Char} (h : c ≠ '%') : plainDots (c :: cs) = c :: plainDots cs :=
    plainDots_cons fun e rest heq => absurd (List.cons.inj heq).1 h
  unfold spell
  split
  · next h =>
    have hne : Char.ofNat b.toNat ≠ '%' :=
      forall_byte (P := fun b => isUnreserved b = true → Char.ofNat b.toNat ≠ '%')
        (by decide +kernel) b h
    exact hstays hne
  · next h =>
    obtain ⟨high, low, hspell, hhigh, hlow, hdot⟩ := digits_not_dot (Bool.eq_false_iff.mpr h)
    rw [hspell]
    calc plainDots ('%' :: high :: low :: cs)
        = '%' :: plainDots (high :: low :: cs) := by
          apply plainDots_cons
          rintro e rest heq
          simp only [List.cons.injEq] at heq
          obtain ⟨-, rfl, rfl, -⟩ := heq
          exact hdot rfl
      _ = '%' :: high :: low :: plainDots cs := by rw [hstays hhigh, hstays hlow]

/-- No dot of a name is encoded, so that the dots of its spelling are those of the name. -/
theorem plainDots_encodeName (name : String) :
    plainDots (encodeName name).toList = (encodeName name).toList := by
  rw [encodeName, String.toList_ofList]
  induction Text.utf8 name with
  | nil => rfl
  | cons b bs ih => rw [List.flatMap_cons, plainDots_spell, ih]

/-- The path of the address of a name is the spelling of the name, unless the name is dots. -/
theorem parse_address (hdot : name ≠ ".") (hdots : name ≠ "..") :
    parse (address name) = .ok ⟨"mysql", true, some [encodeName name], none⟩ := by
  -- The spelling of another name is not that of the dots, which is the dots themselves.
  have hplain (dots : String) (hself : encodeName dots = dots) (hne : name ≠ dots) :
      plainDots (encodeName name).toList ≠ dots.toList := by
    rw [plainDots_encodeName]
    intro h
    exact hne (encodeName_injective ((String.toList_injective h).trans hself.symm))
  have h := parse_segment (plain_encodeName name) (hplain "." rfl hdot) (hplain ".." rfl hdots)
  rwa [String.ofList_toList] at h

end Addresses

end Url

section

variable {name : String}

/-- A configuration takes the spelling of a name in its address for the name. -/
theorem Config.ofUrl_address (hempty : name ≠ "") (hdot : name ≠ ".") (hdots : name ≠ "..") :
    Config.ofUrl (Url.address name) = .ok ⟨Url.address name, some (Url.encodeName name)⟩ := by
  have hspelled : Url.encodeName name ≠ "" :=
    fun he => hempty (Url.encodeName_injective (he.trans rfl))
  rw [Config.ofUrl, Url.parse_address hdot hdots]
  simp only [Url.firstSegment?, if_neg hspelled]

/-- The address of a name can be used. -/
theorem MySql.connectCheck_address (hdot : name ≠ ".") (hdots : name ≠ "..") :
    MySql.connectCheck (Url.address name) = .ok () := by
  have hscheme : "mysql://".toList.isPrefixOf (Url.address name).toList = true := by
    rw [Url.address, String.toList_append]
    rfl
  rw [connectCheck, checkAddress, hscheme, Url.parse_address hdot hdots]
  rfl

end

end SqlBatch
