import SqlBatch.Decimal.Binary64
/- Decimal texts as doubles. The grammar is an optional sign, digits with at most
   one point among or around them and at least one digit, and an optional exponent
   with a sign of its own; or one of the words for what is no finite number. The
   value is rounded once, from the exact quotient.
   Correspondence:
     `fast_float::parse` ↔ `Decimal.read?` -/
namespace SqlBatch

/-- The double nearest to `± digits · 10 ^ exponent`. A number beyond every double, or below
    half of the least one, is settled by its first digit's power alone. -/
def Binary64.ofDecimal (negative : Bool) (digits : Nat) (exponent : Int) : Binary64 :=
  let e := exponent + (toString digits).length
  if digits = 0 || e < -330 then .ofMagnitude negative 0
  else if 320 < e then .infinity negative
  else .ofRatio negative (digits * Nat.pow 10 exponent.toNat) (Nat.pow 10 (-exponent).toNat)

namespace Decimal

/-- An ASCII digit. -/
def isDigit (c : Char) : Bool :=
  '0' ≤ c && c ≤ '9'

/-- There are ten digits. -/
theorem exists_digitChar {c : Char} (hc : isDigit c = true) : ∃ d < 10, c = Nat.digitChar d := by
  simp only [isDigit, Bool.and_eq_true, decide_eq_true_eq] at hc
  have hlow : 48 ≤ c.toNat := hc.1
  have hhigh : c.toNat ≤ 57 := hc.2
  have hall : ∀ d < 10, Char.ofNat (48 + d) = Nat.digitChar d := by decide
  refine ⟨c.toNat - 48, by omega, ?_⟩
  rw [← hall _ (by omega), Nat.add_sub_cancel' hlow, Char.ofNat_toNat]

/-- The number that digits spell, after a number read before them. -/
def natFrom (n : Nat) (ds : List Char) : Nat :=
  ds.foldl (fun n d => 10 * n + (d.toNat - 48)) n

/-- The number that digits spell. -/
def natOf (ds : List Char) : Nat :=
  natFrom 0 ds

/-- The number that ASCII digits spell, if `limit` reaches it; no digits are zero. -/
def natUpTo? (limit : Nat) (ds : List Char) : Option Nat :=
  if ds.all isDigit && natOf ds ≤ limit then some (natOf ds) else none

/-- A sign and what it signs; no sign is positive. -/
def splitSign : List Char → Bool × List Char
  | '-' :: rest => (true, rest)
  | '+' :: rest => (false, rest)
  | cs => (false, cs)

/-- The exponent that the whole of a text spells, zero for no text. -/
def exponent? : List Char → Option Int
  | [] => some 0
  | e :: rest =>
    if e = 'e' || e = 'E' then
      let (negative, ds) := splitSign rest
      if ds ≠ [] && ds.all isDigit then
        some (if negative then -(natOf ds : Int) else natOf ds)
      else none
    else none

/-- The unsigned decimal that the whole of a text spells: the number of all its digits and the
    power of ten of the last one. -/
def unsigned? (cs : List Char) : Option (Nat × Int) :=
  let whole := cs.takeWhile isDigit
  let (fraction, rest) :=
    match cs.dropWhile isDigit with
    | '.' :: rest => (rest.takeWhile isDigit, rest.dropWhile isDigit)
    | rest => ([], rest)
  if whole = [] && fraction = [] then none
  else (exponent? rest).map fun e => (natOf (whole ++ fraction), e - fraction.length)

/-- The words for what is no finite number, in lower case. -/
def word? (negative : Bool) (cs : List Char) : Option Binary64 :=
  match String.ofList (cs.map Char.toLower) with
  | "inf" | "infinity" => some (.infinity negative)
  | "nan" => some .nan
  | _ => none

/-- The double that the whole of a text spells. -/
def read? (cs : List Char) : Option Binary64 :=
  let (negative, cs) := splitSign cs
  match unsigned? cs with
  | some (digits, exponent) => some (.ofDecimal negative digits exponent)
  | none => word? negative cs

end Decimal

end SqlBatch
