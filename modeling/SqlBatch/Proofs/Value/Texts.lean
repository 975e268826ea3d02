import Mathlib.Algebra.Ring.Int.Defs
import Mathlib.Algebra.Ring.Nat
import Mathlib.Data.List.Induction
import Mathlib.Data.List.TakeWhile
import Mathlib.Tactic.Tauto
import SqlBatch.Proofs.Sql.Content
import SqlBatch.Proofs.Text.Utf8
import SqlBatch.Value.Accessors
/- Texts read as integers. The digits at the front of a text are read with at most one sign before
   them, and the number counts if that was the whole of the text.
     1. `Spells`, `SpellsInt`: what digits are worth, by their places, and what a sign makes of it.
     2. `dropBlankEnds_eq_iff`: digits may stand between blanks of any kind.
     3. `nat64?_eq_some_iff`, `int64?_eq_some_iff`: the digits of the numbers of either kind are
        read as these numbers, and nothing else but a sign alone is read.
     4. `texts_read_exactly`: so it is with texts and with their bytes; other bytes are not read,
        and what is written for an integer is read as that integer. -/
namespace SqlBatch

namespace Decimal

/-- The digits spell the number, the last one in the place of the ones. -/
inductive Spells : List Char → Nat → Prop where
  | digit {d : Nat} (hd : d < 10) : Spells [Nat.digitChar d] d
  | more {ds : List Char} {n d : Nat} (hds : Spells ds n) (hd : d < 10) :
      Spells (ds ++ [Nat.digitChar d]) (10 * n + d)

/-- The digits spell the integer with at most one sign before them. -/
inductive SpellsInt : List Char → Int → Prop where
  | bare {ds : List Char} {n : Nat} (hds : Spells ds n) : SpellsInt ds n
  | plus {ds : List Char} {n : Nat} (hds : Spells ds n) : SpellsInt ('+' :: ds) n
  | minus {ds : List Char} {n : Nat} (hds : Spells ds n) : SpellsInt ('-' :: ds) (-(n : Int))

/-! Digits. -/

theorem isDigit_digitChar {d : Nat} (hd : d < 10) : isDigit (Nat.digitChar d) = true := by
  have hall : ∀ d < 10, isDigit (Nat.digitChar d) = true := by decide
  exact hall d hd

theorem natOf_concat (ds : List Char) {d : Nat} (hd : d < 10) :
    natOf (ds ++ [Nat.digitChar d]) = 10 * natOf ds + d := by
  simp [natOf, natFrom, List.foldl_append, Nat.toNat_digitChar_of_lt_ten hd]

/-- Digits spell what they are worth one after the other. -/
theorem spells_iff (ds : List Char) (n : Nat) :
    Spells ds n ↔ ds ≠ [] ∧ ds.all isDigit = true ∧ natOf ds = n := by
  constructor
  · intro h
    induction h with
    | digit hd =>
      refine ⟨by simp, by simp [isDigit_digitChar hd], ?_⟩
      rw [← List.nil_append [_], natOf_concat _ hd]
      exact Nat.zero_add _
    | more hds hd ih =>
      obtain ⟨-, hdigits, hvalue⟩ := ih
      refine ⟨by simp, ?_, ?_⟩
      · rw [List.all_append, hdigits]
        simp [isDigit_digitChar hd]
      · rw [natOf_concat _ hd, hvalue]
  · rintro ⟨hne, hdigits, rfl⟩
    induction ds using List.reverseRecOn with
    | nil => exact absurd rfl hne
    | append_singleton ds c ih =>
      simp only [List.all_append, Bool.and_eq_true, List.all_cons, List.all_nil,
        Bool.and_true] at hdigits
      obtain ⟨d, hd, rfl⟩ := exists_digitChar hdigits.2
      rw [natOf_concat _ hd]
      rcases eq_or_ne ds [] with rfl | hds
      · show Spells [Nat.digitChar d] (10 * 0 + d)
        rw [Nat.mul_zero, Nat.zero_add]
        exact .digit hd
      · exact .more (ih hds hdigits.1) hd

/-! The front of a text. -/

/-- The front is the whole text if all of it are digits. -/
theorem leadingNat_eq_iff (limit : Nat) (cs : List Char) (n : Nat) :
    leadingNat limit cs = (some n, cs.length) ↔
      cs.all isDigit = true ∧ natOf cs = n ∧ n ≤ limit := by
  simp only [leadingNat, natUpTo?, Prod.mk.injEq]
  constructor
  · rintro ⟨hread, hlength⟩
    have hwhole : cs.takeWhile isDigit = cs :=
      (List.takeWhile_prefix isDigit).eq_of_length hlength
    rw [hwhole] at hread
    split at hread
    · next h =>
      cases hread
      simpa using h
    · cases hread
  · rintro ⟨hdigits, rfl, hlimit⟩
    have hwhole : cs.takeWhile isDigit = cs :=
      List.takeWhile_eq_self_iff.mpr (List.all_eq_true.mp hdigits)
    rw [hwhole]
    exact ⟨if_pos (by simp [hdigits, hlimit]), rfl⟩

theorem whole?_eq_some_iff {α : Type} (cs : List Char) (read : Option α × Nat) (a : α) :
    whole? cs read = some a ↔ read = (some a, cs.length) ∧ cs ≠ [] := by
  obtain ⟨_ | b, used⟩ := read
  · simp [whole?]
  · simp only [whole?, Option.ite_none_right_eq_some, Option.some_inj, Prod.mk.injEq]
    rw [← List.length_pos_iff]
    grind

theorem nat64?_eq_some_iff (cs : List Char) (n : Nat) :
    nat64? cs = some n ↔ Spells cs n ∧ n < 2 ^ 64 := by
  have hlimit : n ≤ UInt64.size - 1 ↔ n < 2 ^ 64 := by
    rw [show UInt64.size = 2 ^ 64 from rfl]
    omega
  rw [nat64?, whole?_eq_some_iff, leadingNat_eq_iff, spells_iff, hlimit]
  tauto

/-- The front is the whole text if digits stand behind the sign, or nothing. -/
theorem leadingInt_eq_iff (cs : List Char) (z : Int) :
    leadingInt cs = (some z, cs.length) ↔
      ∃ n, leadingNat (if (splitSign cs).1 then 0x8000000000000000 else 0x7FFFFFFFFFFFFFFF)
          (splitSign cs).2 = (some n, (splitSign cs).2.length) ∧
        z = if (splitSign cs).1 then -(n : Int) else n := by
  have hle : (splitSign cs).2.length ≤ cs.length := by
    unfold splitSign
    split <;> simp
  simp only [leadingInt, Option.map_eq_some_iff, Prod.ext_iff]
  constructor
  · rintro ⟨⟨n, hn, rfl⟩, hused⟩
    exact ⟨n, ⟨hn, by omega⟩, rfl⟩
  · rintro ⟨n, ⟨hn, hused⟩, rfl⟩
    exact ⟨⟨n, hn, rfl⟩, by omega⟩

/-- Nothing but digits behind a sign, or no digits at all. -/
theorem leadingNat_eq_iff_spells (limit : Nat) (ds : List Char) (n : Nat) :
    leadingNat limit ds = (some n, ds.length) ↔
      Spells ds n ∧ n ≤ limit ∨ ds = [] ∧ n = 0 := by
  rw [leadingNat_eq_iff, spells_iff]
  rcases eq_or_ne ds [] with rfl | hne
  · simp only [List.all_nil, natOf, natFrom, List.foldl_nil]
    grind
  · simp only [hne, ne_eq, not_false_eq_true, true_and, false_and, or_false, and_assoc]

/-- No digit is a sign. -/
theorem Spells.splitSign_eq {ds : List Char} {n : Nat} (h : Spells ds n) :
    splitSign ds = (false, ds) := by
  obtain ⟨-, hdigits, -⟩ := (spells_iff ds n).mp h
  unfold splitSign
  split
  · cases hdigits
  · cases hdigits
  · rfl

theorem SpellsInt.ne_nil {cs : List Char} {z : Int} (h : SpellsInt cs z) : cs ≠ [] := by
  cases h with
  | bare hds => exact ((spells_iff _ _).mp hds).1
  | plus hds => exact List.cons_ne_nil _ _
  | minus hds => exact List.cons_ne_nil _ _

/-- The digits of an integer of 64 bits are read as the integer, and a sign alone as zero. -/
theorem int64?_eq_some_iff (cs : List Char) (z : Int) :
    int64? cs = some z ↔
      SpellsInt cs z ∧ -2 ^ 63 ≤ z ∧ z < 2 ^ 63 ∨ (cs = ['+'] ∨ cs = ['-']) ∧ z = 0 := by
  rw [int64?, whole?_eq_some_iff, leadingInt_eq_iff]
  simp only [leadingNat_eq_iff_spells]
  constructor
  · rintro ⟨⟨n, hn, rfl⟩, hne⟩
    unfold splitSign at hn ⊢
    split at hn
    · next ds =>
      rcases hn with ⟨hds, hlimit⟩ | ⟨rfl, rfl⟩
      · exact .inl ⟨.minus hds, by grind⟩
      · exact .inr ⟨.inr rfl, rfl⟩
    · next ds =>
      rcases hn with ⟨hds, hlimit⟩ | ⟨rfl, rfl⟩
      · exact .inl ⟨.plus hds, by grind⟩
      · exact .inr ⟨.inl rfl, rfl⟩
    · rcases hn with ⟨hds, hlimit⟩ | ⟨hnil, -⟩
      · exact .inl ⟨.bare hds, by grind⟩
      · exact absurd hnil hne
  · rintro (⟨hcs, hlow, hhigh⟩ | ⟨rfl | rfl, rfl⟩)
    · refine ⟨?_, hcs.ne_nil⟩
      cases hcs with
      | bare hds =>
        rw [hds.splitSign_eq]
        exact ⟨_, .inl ⟨hds, by grind⟩, rfl⟩
      | plus hds => exact ⟨_, .inl ⟨hds, by grind [splitSign]⟩, rfl⟩
      | minus hds => exact ⟨_, .inl ⟨hds, by grind [splitSign]⟩, rfl⟩
    · exact ⟨⟨0, .inr ⟨rfl, rfl⟩, rfl⟩, by simp⟩
    · exact ⟨⟨0, .inr ⟨rfl, rfl⟩, rfl⟩, by simp⟩

/-! What is written for an integer. -/

theorem spells_toString (n : Nat) : Spells (toString n).toList n := by
  refine (spells_iff _ n).mpr ⟨?_, ?_, ?_⟩
  · rw [Nat.toString_eq_ofList_toDigits, String.toList_ofList]
    exact Nat.toDigits_ne_nil
  · exact Sql.isDigit_toString n
  · rw [Nat.toString_eq_ofList_toDigits, String.toList_ofList]
    exact Nat.ofDigitChars_toDigits (by decide) (by decide)

theorem spellsInt_toString (z : Int) : SpellsInt (toString z).toList z := by
  cases z with
  | ofNat n => exact .bare (spells_toString n)
  | negSucc n =>
    rw [Sql.toList_negSucc]
    exact .minus (spells_toString (n + 1))

end Decimal

/-! Blanks around a text. -/

namespace Text

/-- The text is the inner one with nothing but blanks before and behind it. -/
def Between (inner text : List Char) : Prop :=
  ∃ front back, text = front ++ inner ++ back ∧
    (∀ c ∈ front, isBlank c = true) ∧ ∀ c ∈ back, isBlank c = true

theorem Between.self (text : List Char) : Between text text := ⟨[], [], by simp⟩

theorem between_dropBlankEnds (text : List Char) : Between (dropBlankEnds text) text := by
  obtain ⟨back, hback, hblank⟩ := exists_dropBlankEnd_append (text.dropWhile isBlank)
  refine ⟨text.takeWhile isBlank, back, ?_, fun c hc => List.mem_takeWhile_imp hc, hblank⟩
  rw [dropBlankEnds, List.append_assoc, ← hback, List.takeWhile_append_dropWhile]

/-- A text without blanks is what is left between blanks exactly if it stands between blanks. -/
theorem dropBlankEnds_eq_iff {inner : List Char} (hinner : ∀ c ∈ inner, isBlank c = false)
    (text : List Char) (hne : inner ≠ []) : dropBlankEnds text = inner ↔ Between inner text := by
  have hstart {cs : List Char} (hcs : ∀ c ∈ cs, isBlank c = false) (hne : cs ≠ [])
      (rest : List Char) : (cs ++ rest).dropWhile isBlank = cs ++ rest := by
    obtain ⟨c, cs, rfl⟩ := List.exists_cons_of_ne_nil hne
    have hc := hcs c List.mem_cons_self
    rw [List.cons_append, List.dropWhile_cons_of_neg (by simp [hc])]
  constructor
  · rintro rfl
    exact between_dropBlankEnds text
  · rintro ⟨front, back, rfl, hfront, hback⟩
    have hreverse : ∀ c ∈ inner.reverse, isBlank c = false := fun c hc =>
      hinner c (List.mem_reverse.mp hc)
    have hback : ∀ c ∈ back.reverse, isBlank c = true := fun c hc =>
      hback c (List.mem_reverse.mp hc)
    rw [dropBlankEnds, List.append_assoc, List.dropWhile_append_of_pos hfront, hstart hinner hne,
      dropBlankEnd, List.reverse_append, List.dropWhile_append_of_pos hback]
    have hrest := hstart hreverse (by simpa using hne) []
    rw [List.append_nil] at hrest
    rw [hrest, List.reverse_reverse]

/-- What is left between blanks has a property exactly if a text that has it stands there, if no
    text with a blank in it has it. -/
theorem dropBlankEnds_iff_exists {P : List Char → Prop}
    (hP : ∀ cs, P cs → cs ≠ [] ∧ ∀ c ∈ cs, isBlank c = false) (text : List Char) :
    P (dropBlankEnds text) ↔ ∃ inner, Between inner text ∧ P inner := by
  constructor
  · exact fun h => ⟨_, between_dropBlankEnds text, h⟩
  · rintro ⟨inner, hbetween, h⟩
    obtain ⟨hne, hinner⟩ := hP inner h
    rw [(dropBlankEnds_eq_iff hinner text hne).mpr hbetween]
    exact h

end Text

namespace Decimal

theorem Spells.filled {ds : List Char} {n : Nat} (h : Spells ds n) :
    ds ≠ [] ∧ ∀ c ∈ ds, Text.isBlank c = false := by
  obtain ⟨hne, hdigits, -⟩ := (spells_iff ds n).mp h
  refine ⟨hne, fun c hc => ?_⟩
  obtain ⟨d, hd, rfl⟩ := exists_digitChar (List.all_eq_true.mp hdigits c hc)
  have hall : ∀ d < 10, Text.isBlank (Nat.digitChar d) = false := by decide
  exact hall d hd

theorem SpellsInt.filled {cs : List Char} {z : Int} (h : SpellsInt cs z) :
    cs ≠ [] ∧ ∀ c ∈ cs, Text.isBlank c = false := by
  refine ⟨h.ne_nil, ?_⟩
  cases h with
  | bare hds => exact hds.filled.2
  | plus hds => exact List.forall_mem_cons.mpr ⟨by decide, hds.filled.2⟩
  | minus hds => exact List.forall_mem_cons.mpr ⟨by decide, hds.filled.2⟩

/-- Digits between blanks. -/
theorem nat64?_dropBlankEnds (text : List Char) (n : Nat) :
    nat64? (Text.dropBlankEnds text) = some n ↔
      (∃ ds, Text.Between ds text ∧ Spells ds n) ∧ n < 2 ^ 64 := by
  rw [nat64?_eq_some_iff,
    Text.dropBlankEnds_iff_exists (P := fun ds => Spells ds n) fun _ h => h.filled]

/-- An integer between blanks, or a sign alone. -/
theorem int64?_dropBlankEnds (text : List Char) (z : Int) :
    int64? (Text.dropBlankEnds text) = some z ↔
      (∃ cs, Text.Between cs text ∧ SpellsInt cs z) ∧ -2 ^ 63 ≤ z ∧ z < 2 ^ 63 ∨
        (Text.Between ['+'] text ∨ Text.Between ['-'] text) ∧ z = 0 := by
  rw [int64?_eq_some_iff,
    Text.dropBlankEnds_iff_exists (P := fun cs => SpellsInt cs z) fun _ h => h.filled,
    Text.dropBlankEnds_eq_iff (List.forall_mem_singleton.mpr (by decide)) text (by simp),
    Text.dropBlankEnds_eq_iff (List.forall_mem_singleton.mpr (by decide)) text (by simp)]

end Decimal

namespace Value

theorem asText?_eq_some {v : Value} {s : String} (h : v = text s ∨ v = blob (Text.utf8 s)) :
    v.asText? = some s := by
  rcases h with rfl | rfl
  · rfl
  · exact (Text.ofUtf8?_eq_some_iff _ s).mpr rfl

theorem asNat?_eq {v : Value} {s : String} (h : v = text s ∨ v = blob (Text.utf8 s)) :
    v.asNat? = Decimal.nat64? (Text.dropBlankEnds s.toList) := by
  have htext := asText?_eq_some h
  rcases h with rfl | rfl <;> simp [asNat?, trimmed?, htext]

theorem asInt?_eq {v : Value} {s : String} (h : v = text s ∨ v = blob (Text.utf8 s)) :
    v.asInt? = Decimal.int64? (Text.dropBlankEnds s.toList) := by
  have htext := asText?_eq_some h
  rcases h with rfl | rfl <;> simp [asInt?, trimmed?, htext]

/-- Bytes that are those of no text are read as no number. -/
theorem blob_not_read {bs : List UInt8} (h : ∀ s, bs ≠ Text.utf8 s) :
    (blob bs).asNat? = none ∧ (blob bs).asInt? = none := by
  have htext : Text.ofUtf8? bs = none :=
    Option.eq_none_iff_forall_not_mem.mpr fun s hs => h s ((Text.ofUtf8?_eq_some_iff bs s).mp hs)
  simp [asNat?, asInt?, trimmed?, asText?, htext]

/-- A text, held as such or as its bytes, is read as a natural number below `2 ^ 64` exactly if it
    is digits that spell the number, with nothing but blanks around them, and as an integer from
    `-2 ^ 63` to below `2 ^ 63` exactly if it is that with at most one sign before the digits, or
    the sign alone, which is read as zero. The bytes of no text are not read, and what is written
    for an integer of either kind is read as that integer. -/
theorem texts_read_exactly {v : Value} {s : String} (hv : v = text s ∨ v = blob (Text.utf8 s)) :
    (∀ n, v.asNat? = some n ↔
      (∃ ds, Text.Between ds s.toList ∧ Decimal.Spells ds n) ∧ n < 2 ^ 64) ∧
    (∀ z, v.asInt? = some z ↔
      (∃ cs, Text.Between cs s.toList ∧ Decimal.SpellsInt cs z) ∧ -2 ^ 63 ≤ z ∧ z < 2 ^ 63 ∨
        (Text.Between ['+'] s.toList ∨ Text.Between ['-'] s.toList) ∧ z = 0) ∧
    (∀ bs, (∀ t, bs ≠ Text.utf8 t) → (blob bs).asNat? = none ∧ (blob bs).asInt? = none) ∧
    (∀ d n, (blob (Text.utf8 (Sql.literal d (unsigned n)))).asNat? = some n.toNat) ∧
    ∀ d n, (blob (Text.utf8 (Sql.literal d (signed n)))).asInt? = some n.toInt := by
  refine ⟨fun n => ?_, fun z => ?_, fun bs hbs => blob_not_read hbs, fun d n => ?_, fun d n => ?_⟩
  · rw [asNat?_eq hv]
    exact Decimal.nat64?_dropBlankEnds s.toList n
  · rw [asInt?_eq hv]
    exact Decimal.int64?_dropBlankEnds s.toList z
  · rw [asNat?_eq (.inr rfl)]
    exact (Decimal.nat64?_dropBlankEnds _ _).mpr
      ⟨⟨_, .self _, Decimal.spells_toString n.toNat⟩, n.toNat_lt⟩
  · rw [asInt?_eq (.inr rfl)]
    exact (Decimal.int64?_dropBlankEnds _ _).mpr
      (.inl ⟨⟨_, .self _, Decimal.spellsInt_toString n.toInt⟩, n.le_toInt, n.toInt_lt⟩)

/-- The bytes of a no-break space, a sign, two leading zeros, a digit and a blank. -/
theorem texts_read_exactly_padded :
    (blob [0xC2, 0xA0, 0x2D, 0x30, 0x30, 0x37, 0x20]).asInt? = some (-7) := by
  have hbytes : Text.utf8 "\u00A0-007 " = [0xC2, 0xA0, 0x2D, 0x30, 0x30, 0x37, 0x20] := by decide
  have hdigits : Decimal.Spells ['0', '0', '7'] 7 :=
    .more (.more (.digit (d := 0) (by decide)) (d := 0) (by decide)) (d := 7) (by decide)
  have hbetween : Text.Between ['-', '0', '0', '7'] "\u00A0-007 ".toList :=
    ⟨['\u00A0'], [' '], by decide, List.all_eq_true.mp rfl, List.all_eq_true.mp rfl⟩
  have h := (texts_read_exactly (.inr (congrArg blob hbytes.symm))).2.1 (-7)
  exact h.mpr (.inl ⟨⟨_, hbetween, .minus hdigits⟩, by decide, by decide⟩)

/-- A sign is read as zero though there are no digits. -/
theorem sign_read_as_zero :
    (text "+").asInt? = some 0 ∧ ¬ ∃ z cs, Text.Between cs "+".toList ∧ Decimal.SpellsInt cs z := by
  refine ⟨by decide, fun ⟨z, hspelled⟩ => ?_⟩
  have hspells : Decimal.SpellsInt (Text.dropBlankEnds ['+']) z :=
    (Text.dropBlankEnds_iff_exists (P := fun cs => Decimal.SpellsInt cs z)
      (fun _ h => h.filled) _).mpr hspelled
  have hsign : Text.dropBlankEnds ['+'] = ['+'] := by decide
  rw [hsign] at hspells
  cases hspells with
  | bare hds => exact nomatch ((Decimal.spells_iff _ _).mp hds).2.1
  | plus hds => exact ((Decimal.spells_iff _ _).mp hds).1 rfl

end Value

end SqlBatch
