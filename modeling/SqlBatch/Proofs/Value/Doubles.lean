import Mathlib.Algebra.Order.Field.Power
import Mathlib.Tactic.FieldSimp
import Mathlib.Tactic.NormNum
import Mathlib.Tactic.Ring
import SqlBatch.Value.Accessors
/- Doubles read as integers. A double is a rational number by the fields of its bits, and it is read
   as an integer only if it is that integer. The bounds of the two kinds of integers are doubles
   as well, and the upper ones are beyond the kind: as doubles, `2 ^ 64 - 1` and `2 ^ 63 - 1` are
   `2 ^ 64` and `2 ^ 63`.
     1. `integer?_eq_some_iff`: a double is the integer that it is taken for, whatever its exponent.
     2. `asNat?_float_eq_some_iff`, `asInt?_float_eq_some_iff`: of the integers those of the kind
        are read as what they are, and the one next to them as the greatest.
     3. `doubles_read_exactly`: both together; they agree but on `2 ^ 63`. -/
namespace SqlBatch

namespace Binary64

/-- The number that the bits stand for: a sign, a power of two by the exponent field, and the
    fraction behind a one, which is missing if the exponent field is zero. The greatest exponent
    field stands for no number. -/
def rational? (x : Binary64) : Option Rat :=
  let sign : Rat := (-1) ^ (x.bits.toNat / 2 ^ 63)
  let exponent : Nat := x.bits.toNat / 2 ^ 52 % 2 ^ 11
  let fraction : Rat := ((x.bits.toNat % 2 ^ 52 : Nat) : Rat) / 2 ^ 52
  if exponent = 2047 then none
  else if exponent = 0 then some (sign * fraction * 2 ^ (-1022 : Int))
  else some (sign * (1 + fraction) * 2 ^ ((exponent : Int) - 1023))

/-! The fields. -/

theorem exponentField_eq (x : Binary64) : x.exponentField = x.bits.toNat / 2 ^ 52 % 2 ^ 11 := by
  unfold exponentField magnitudeBits
  omega

theorem fractionField_eq (x : Binary64) : x.fractionField = x.bits.toNat % 2 ^ 52 := by
  unfold fractionField magnitudeBits
  omega

theorem bits_div (x : Binary64) : x.bits.toNat / 2 ^ 63 = if x.isNegative then 1 else 0 := by
  have hlt := x.bits.toNat_lt
  unfold isNegative
  simp only [decide_eq_true_eq]
  split <;> omega

/-- The magnitude is the mantissa times its power. -/
theorem rational?_eq (x : Binary64) : x.rational? =
    if x.isFinite then some ((if x.isNegative then -1 else 1) * ((x.mantissa : Rat) * 2 ^ x.power))
    else none := by
  have hfield : x.exponentField < 2 ^ 11 := by
    rw [exponentField_eq]
    exact Nat.mod_lt _ (by decide)
  have hsign : ((-1 : Rat)) ^ (if x.isNegative then 1 else 0) = if x.isNegative then -1 else 1 := by
    split <;> norm_num
  simp only [rational?, ← exponentField_eq, ← fractionField_eq, bits_div, hsign, isFinite,
    mantissa, power, decide_eq_true_eq]
  rcases Nat.lt_trichotomy x.exponentField 2047 with hfinite | hnot | hbeyond
  · rw [if_neg hfinite.ne, if_pos hfinite]
    -- The fraction field counts units of the fraction's last bit.
    have hunit (e : Int) : (2 : Rat) ^ (e - 52) = 2 ^ e / 2 ^ 52 := by
      rw [zpow_sub₀ two_ne_zero]
      norm_num
    split
    · rw [show (-1074 : Int) = -1022 - 52 by norm_num, hunit]
      congr 1
      ring
    · have hexponent : (x.exponentField : Int) - 1075 = ((x.exponentField : Int) - 1023) - 52 := by
        ring
      rw [hexponent, hunit]
      congr 1
      push_cast
      ring
  · simp [hnot]
  · omega

/-! Integers among the doubles. -/

/-- The natural number that a mantissa times a power of two is, if the bits that a negative power
    shifts out are all zero. -/
theorem shifted_eq_some_iff (m n : Nat) (p : Int) :
    (if 0 ≤ p then some (m <<< p.toNat)
      else if (m >>> (-p).toNat) <<< (-p).toNat = m then some (m >>> (-p).toNat)
      else none) = some n ↔ (m : Rat) * 2 ^ p = n := by
  rcases le_or_gt 0 p with hp | hp
  · obtain ⟨k, rfl⟩ := Int.eq_ofNat_of_zero_le hp
    rw [if_pos hp, Option.some_inj, Int.toNat_natCast, Nat.shiftLeft_eq, zpow_natCast]
    norm_cast
  · obtain ⟨k, rfl⟩ : ∃ k : Nat, p = -k := ⟨(-p).toNat, by omega⟩
    have hpos : 0 < 2 ^ k := Nat.two_pow_pos k
    have hwhole : (m : Rat) * 2 ^ (-(k : Int)) = n ↔ m = n * 2 ^ k := by
      rw [zpow_neg, zpow_natCast, ← div_eq_mul_inv, div_eq_iff (by positivity)]
      norm_cast
    rw [if_neg (by omega), hwhole, neg_neg, Int.toNat_natCast, Nat.shiftLeft_eq,
      Nat.shiftRight_eq_div_pow]
    constructor
    · intro h
      split at h
      · next hm =>
        cases h
        exact hm.symm
      · cases h
    · rintro rfl
      rw [Nat.mul_div_cancel _ hpos, if_pos rfl]

/-- A double is taken for an integer exactly if it is that integer. -/
theorem integer?_eq_some_iff (x : Binary64) (z : Int) :
    x.integer? = some z ↔ x.rational? = some (z : Rat) := by
  rw [rational?_eq, integer?]
  split
  · have hsize : 0 ≤ (x.mantissa : Rat) * 2 ^ x.power := by positivity
    rw [Option.map_eq_some_iff, Option.some_inj]
    simp only [shifted_eq_some_iff]
    constructor
    · rintro ⟨n, hn, rfl⟩
      rw [hn]
      split <;> simp
    · intro h
      -- The size is the natural number that the integer has under its sign.
      cases hsign : x.isNegative with
      | false =>
        simp only [hsign, Bool.false_eq_true, if_false, one_mul] at h ⊢
        obtain ⟨n, rfl⟩ := Int.eq_ofNat_of_zero_le (Int.cast_nonneg_iff.mp (h ▸ hsize))
        exact ⟨n, h, rfl⟩
      | true =>
        simp only [hsign, if_true, neg_one_mul] at h ⊢
        have hneg : 0 ≤ -z := by
          rw [← Int.cast_nonneg_iff (R := Rat), Int.cast_neg, ← h, neg_neg]
          exact hsize
        obtain ⟨n, hn⟩ := Int.eq_ofNat_of_zero_le hneg
        have hcast : (n : Rat) = -(z : Rat) := by exact_mod_cast hn.symm
        refine ⟨n, ?_, by omega⟩
        rw [hcast, ← h, neg_neg]
  · simp

/-- The bits stand for one integer at most. -/
theorem rational?_unique {x : Binary64} {y z : Int} (hy : x.rational? = some (y : Rat))
    (hz : x.rational? = some (z : Rat)) : y = z := by
  rw [hy, Option.some_inj] at hz
  exact_mod_cast hz

/-- What is left of the integers if those of a range are kept and the one behind the range is taken
    for the last one of it. -/
theorem integer?_within (x : Binary64) {low high : Int} (hrange : low < high) (n : Int) :
    (x.integer?.bind fun z =>
      if low ≤ z ∧ z ≤ high then some (min z (high - 1)) else none) = some n ↔
      x.rational? = some (n : Rat) ∧ low ≤ n ∧ n < high ∨
        x.rational? = some (high : Rat) ∧ n = high - 1 := by
  simp only [Option.bind_eq_some_iff, integer?_eq_some_iff]
  constructor
  · rintro ⟨z, hz, h⟩
    split at h
    · next hwithin =>
      cases h
      rcases hwithin.2.lt_or_eq with hlt | rfl
      · left
        rw [min_eq_left (by omega)]
        exact ⟨hz, hwithin.1, hlt⟩
      · right
        exact ⟨hz, min_eq_right (by omega)⟩
    · cases h
  · rintro (⟨hn, hlow, hhigh⟩ | ⟨hhigh, rfl⟩)
    · exact ⟨n, hn, by rw [if_pos ⟨hlow, hhigh.le⟩, min_eq_left (by omega)]⟩
    · exact ⟨high, hhigh, by rw [if_pos ⟨hrange.le, le_rfl⟩, min_eq_right (by omega)]⟩

end Binary64

namespace Value

/-! Both kinds of integers. -/

/-- Of the doubles the natural numbers below `2 ^ 64` are read as what they are, and `2 ^ 64` as the
    greatest of them. -/
theorem asNat?_float_eq_some_iff (x : Binary64) (n : Nat) : (float x).asNat? = some n ↔
    x.rational? = some (n : Rat) ∧ n < 2 ^ 64 ∨ x.rational? = some (2 ^ 64) ∧ n = 2 ^ 64 - 1 := by
  have hsize : UInt64.size = 2 ^ 64 := rfl
  have hread : (float x).asNat? = some n ↔ (x.integer?.bind fun z =>
      if 0 ≤ z ∧ z ≤ 2 ^ 64 then some (min z (2 ^ 64 - 1)) else none) = some (n : Int) := by
    rw [asNat?, hsize]
    cases x.integer? with
    | none => simp
    | some z =>
      simp only [Option.bind_some]
      split
      · rw [if_pos (by omega), Option.some_inj, Option.some_inj]
        omega
      · rw [if_neg (by omega)]
        simp
  have hwithin : 0 ≤ (n : Int) ∧ (n : Int) < 2 ^ 64 ↔ n < 2 ^ 64 := by omega
  have hlast : (n : Int) = 2 ^ 64 - 1 ↔ n = 2 ^ 64 - 1 := by omega
  rw [hread, x.integer?_within (by norm_num) n, hwithin, hlast]
  push_cast
  rfl

/-- Of the doubles the integers from `-2 ^ 63` to below `2 ^ 63` are read as what they are, and
    `2 ^ 63` as the greatest of them. -/
theorem asInt?_float_eq_some_iff (x : Binary64) (n : Int) : (float x).asInt? = some n ↔
    x.rational? = some (n : Rat) ∧ -2 ^ 63 ≤ n ∧ n < 2 ^ 63 ∨
      x.rational? = some (2 ^ 63) ∧ n = 2 ^ 63 - 1 := by
  have hrange : (-2 ^ 63 : Int) < 2 ^ 63 := by norm_num
  have hread := x.integer?_within hrange n
  push_cast at hread
  exact hread

/-- A double is read as a natural number below `2 ^ 64`, and as an integer from `-2 ^ 63` to below
    `2 ^ 63`, exactly if it is that number, but for the one next to either kind, which is read as
    the greatest of it. So both ways of reading agree but on `2 ^ 63`. -/
theorem doubles_read_exactly (x : Binary64) :
    (∀ n : Nat, (float x).asNat? = some n ↔
      x.rational? = some (n : Rat) ∧ n < 2 ^ 64 ∨
        x.rational? = some (2 ^ 64) ∧ n = 2 ^ 64 - 1) ∧
    (∀ n : Int, (float x).asInt? = some n ↔
      x.rational? = some (n : Rat) ∧ -2 ^ 63 ≤ n ∧ n < 2 ^ 63 ∨
        x.rational? = some (2 ^ 63) ∧ n = 2 ^ 63 - 1) ∧
    ∀ (m : Nat) (n : Int), (float x).asNat? = some m → (float x).asInt? = some n →
      x.rational? ≠ some (2 ^ 63) → (m : Int) = n := by
  refine ⟨asNat?_float_eq_some_iff x, asInt?_float_eq_some_iff x, fun m n hm hn hne => ?_⟩
  rcases (asInt?_float_eq_some_iff x n).mp hn with ⟨hn, -, hlt⟩ | ⟨h63, -⟩
  · rcases (asNat?_float_eq_some_iff x m).mp hm with ⟨hm, -⟩ | ⟨h64, -⟩
    · exact Binary64.rational?_unique (by exact_mod_cast hm) hn
    · have hn64 : n = 2 ^ 64 := Binary64.rational?_unique hn (by exact_mod_cast h64)
      omega
  · exact absurd h63 hne

/-- The greatest double below `2 ^ 63`. -/
theorem doubles_read_exactly_below :
    (float ⟨0x43DFFFFFFFFFFFFF⟩).asNat? = some (2 ^ 63 - 2 ^ 10) ∧
    (float ⟨0x43DFFFFFFFFFFFFF⟩).asInt? = some (2 ^ 63 - 2 ^ 10) := by
  have hx : Binary64.rational? ⟨0x43DFFFFFFFFFFFFF⟩ = some ((2 ^ 63 - 2 ^ 10 : Int) : Rat) :=
    (Binary64.integer?_eq_some_iff _ _).mp (by decide +kernel)
  have h := doubles_read_exactly ⟨0x43DFFFFFFFFFFFFF⟩
  exact ⟨(h.1 _).mpr (.inl ⟨by exact_mod_cast hx, by norm_num⟩),
    (h.2.1 _).mpr (.inl ⟨hx, by norm_num, by norm_num⟩)⟩

/-- As doubles the greatest numbers of both kinds are the ones next to them, which are therefore
    read as the greatest. So `2 ^ 63` is read as two different integers. -/
theorem doubles_saturate :
    (Binary64.ofInt (2 ^ 64 - 1) = ⟨0x43F0000000000000⟩ ∧
      Binary64.rational? ⟨0x43F0000000000000⟩ = some (2 ^ 64) ∧
      (float ⟨0x43F0000000000000⟩).asNat? = some (2 ^ 64 - 1)) ∧
    (Binary64.ofInt (2 ^ 63 - 1) = ⟨0x43E0000000000000⟩ ∧
      Binary64.rational? ⟨0x43E0000000000000⟩ = some (2 ^ 63) ∧
      (float ⟨0x43E0000000000000⟩).asNat? = some (2 ^ 63) ∧
      (float ⟨0x43E0000000000000⟩).asInt? = some (2 ^ 63 - 1)) := by
  have h64 : Binary64.rational? ⟨0x43F0000000000000⟩ = some ((2 ^ 64 : Int) : Rat) :=
    (Binary64.integer?_eq_some_iff _ _).mp (by decide +kernel)
  have h63 : Binary64.rational? ⟨0x43E0000000000000⟩ = some ((2 ^ 63 : Int) : Rat) :=
    (Binary64.integer?_eq_some_iff _ _).mp (by decide +kernel)
  exact ⟨⟨by decide +kernel, by exact_mod_cast h64, by decide +kernel⟩,
    by decide +kernel, by exact_mod_cast h63, by decide +kernel, by decide +kernel⟩

end Value

end SqlBatch
