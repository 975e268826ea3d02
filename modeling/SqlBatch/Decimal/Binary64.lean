/- Double precision numbers as their 64 bits. A finite one is exactly
   `± mantissa · 2 ^ power`; every operation here is exact arithmetic on that
   form, so nothing is left to the machine's floating point unit. The fields are
   those of the format: a sign bit, 11 bits of exponent, 52 bits of fraction. -/
namespace SqlBatch

/-- A double precision number, held by its bits. -/
structure Binary64 where
  bits : UInt64
  deriving DecidableEq, Repr

namespace Binary64

/-- The sign bit. -/
def isNegative (x : Binary64) : Bool :=
  0x8000000000000000 ≤ x.bits.toNat

/-- The bits below the sign. -/
def magnitudeBits (x : Binary64) : Nat :=
  x.bits.toNat % 0x8000000000000000

/-- The exponent field. -/
def exponentField (x : Binary64) : Nat :=
  x.magnitudeBits / 0x10000000000000

/-- The fraction field. -/
def fractionField (x : Binary64) : Nat :=
  x.magnitudeBits % 0x10000000000000

/-- Neither infinite nor not a number. -/
def isFinite (x : Binary64) : Bool :=
  x.exponentField < 2047

/-- Not a number. -/
def isNaN (x : Binary64) : Bool :=
  x.exponentField = 2047 && x.fractionField ≠ 0

/-- Zero of either sign. -/
def isZero (x : Binary64) : Bool :=
  x.magnitudeBits = 0

/-- The integer `m` of `± m · 2 ^ power`. -/
def mantissa (x : Binary64) : Nat :=
  if x.exponentField = 0 then x.fractionField else x.fractionField + 0x10000000000000

/-- The power of two of `± mantissa · 2 ^ power`. -/
def power (x : Binary64) : Int :=
  if x.exponentField = 0 then -1074 else (x.exponentField : Int) - 1075

/-- The number as a magnitude's bits under a sign. -/
def ofMagnitude (negative : Bool) (magnitude : Nat) : Binary64 :=
  ⟨UInt64.ofNat (magnitude + if negative then 0x8000000000000000 else 0)⟩

/-- The infinity of a sign. -/
def infinity (negative : Bool) : Binary64 :=
  ofMagnitude negative 0x7FF0000000000000

/-- The quiet number that is none. -/
def nan : Binary64 :=
  ofMagnitude false 0x7FF8000000000000

/-- Equality of the numbers: the zeros are equal and no NaN equals anything. -/
def same (x y : Binary64) : Bool :=
  !x.isNaN && !y.isNaN && (x.bits = y.bits || (x.isZero && y.isZero))

/-- The integer that the number is, when it is one. -/
def integer? (x : Binary64) : Option Int :=
  if x.isFinite then
    let size :=
      if 0 ≤ x.power then some (x.mantissa <<< x.power.toNat)
      else
        let n := x.mantissa >>> (-x.power).toNat
        if n <<< (-x.power).toNat = x.mantissa then some n else none
    size.map fun n : Nat => if x.isNegative then -(n : Int) else n
  else none

/-- The quotient of two naturals, a half going to the even neighbour. -/
def divideToEven (a b : Nat) : Nat :=
  let q := a / b
  let twice := 2 * (a % b)
  if twice < b then q else if b < twice then q + 1 else q + q % 2

/-- The greatest `e` with `2 ^ e ≤ a / b`, for positive `a` and `b`. -/
def ratioLog2 (a b : Nat) : Int :=
  let e : Int := (Nat.log2 a : Int) - (Nat.log2 b : Int)
  if b <<< e.toNat ≤ a <<< (-e).toNat then e else e - 1

/-- The double nearest to `± a / b`, a half going to the even one; too large a quotient
    gives infinity. The mantissa's carry into the next power needs no case of its own, for the
    bits of the next power follow those of the last one. -/
def ofRatio (negative : Bool) (a b : Nat) : Binary64 :=
  if a = 0 then ofMagnitude negative 0
  else
    let power := max (-1074) (ratioLog2 a b - 52)
    let mantissa := divideToEven (a <<< (-power).toNat) (b <<< power.toNat)
    let magnitude := (power + 1074).toNat * 0x10000000000000 + mantissa
    if magnitude < 0x7FF0000000000000 then ofMagnitude negative magnitude else infinity negative

/-- The double nearest to an integer. -/
def ofInt (n : Int) : Binary64 :=
  ofRatio (n < 0) n.natAbs 1

/-- The double that a single precision number of the given bits is. -/
def ofSingleBits (bits : Nat) : Binary64 :=
  let negative := 0x80000000 ≤ bits
  let exponent := bits % 0x80000000 / 0x800000
  let fraction := bits % 0x800000
  if exponent = 255 then
    if fraction = 0 then infinity negative else nan
  else if exponent = 0 then ofRatio negative fraction (1 <<< 149)
  else ofRatio negative ((fraction + 0x800000) <<< exponent) (1 <<< 150)

end Binary64

end SqlBatch
