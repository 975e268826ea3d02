import SqlBatch.Decimal.Binary64
/- The shortest decimal of a double: of the decimals that read back as it, the
   ones on the coarsest grid of powers of ten, and of those the nearest. The reals
   that read back as `m · 2 ^ q` lie between the midpoints to its neighbours, ends
   included exactly when `m` is even; bounds and candidates are compared as
   integers over one common denominator.
   Correspondence:
     the digits of `format_finite` ↔ `shortest` -/
namespace SqlBatch

/-- The number `digits · 10 ^ exponent`. -/
structure Decimal where
  digits : Nat
  exponent : Int
  deriving DecidableEq, Repr

/-- A positive value between the ends of an interval, over one denominator. -/
structure Enclosed where
  low : Nat
  value : Nat
  high : Nat
  denominator : Nat
  /-- The ends belong to the interval. -/
  closed : Bool
  deriving DecidableEq, Repr

namespace Enclosed

/-- The same interval with everything divided by `10 ^ k`. -/
def scaled (i : Enclosed) (k : Int) : Enclosed :=
  let up := Nat.pow 10 (-k).toNat
  ⟨i.low * up, i.value * up, i.high * up, i.denominator * Nat.pow 10 k.toNat, i.closed⟩

/-- The integer lies in the interval. -/
def holds (i : Enclosed) (n : Nat) : Bool :=
  let x := n * i.denominator
  if i.closed then i.low ≤ x && x ≤ i.high else i.low < x && x < i.high

/-- The integer in the interval that is nearest to the value, of two the even one. -/
def nearest? (i : Enclosed) : Option Nat :=
  let below := i.value / i.denominator
  let above := below + 1
  match i.holds below, i.holds above with
  | false, false => none
  | true, false => some below
  | false, true => some above
  | true, true =>
    let down := i.value - below * i.denominator
    let up := above * i.denominator - i.value
    some (if down < up then below else if up < down then above else below + below % 2)

/-- The first grid, going down from `10 ^ k`, that has a point in the interval. -/
def coarsest (i : Enclosed) : Nat → Int → Decimal
  | 0, k => ⟨(i.scaled k).value / (i.scaled k).denominator, k⟩
  | steps + 1, k =>
    match (i.scaled k).nearest? with
    | some n => ⟨n, k⟩
    | none => coarsest i steps (k - 1)

end Enclosed

namespace Binary64

/-- The reals that round to the magnitude of a finite double. Below a power of two the
    neighbour is half as far away as above it. -/
def enclosure (x : Binary64) : Enclosed :=
  let up := (x.power - 2).toNat
  let belowGap := if x.fractionField = 0 && 1 < x.exponentField then 1 else 2
  ⟨(4 * x.mantissa - belowGap) <<< up, (4 * x.mantissa) <<< up, (4 * x.mantissa + 2) <<< up,
   1 <<< (2 - x.power).toNat, x.mantissa % 2 = 0⟩

/-- The shortest decimal of the magnitude of a finite double that is not zero. The search
    starts above the first digit, for `0.30103` is not below the logarithm of two. -/
def shortest (x : Binary64) : Decimal :=
  let i := x.enclosure
  i.coarsest 24 ((ratioLog2 i.value i.denominator + 1) * 30103 / 100000 + 2)

end Binary64

end SqlBatch
