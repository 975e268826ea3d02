import SqlBatch.Value.Basic
import SqlBatch.Decimal.Reading
import SqlBatch.Text.Blank
import SqlBatch.Text.Utf8
/- Values read as a text, an integer or a double. Rows hold most columns as bytes,
   so that a text and the bytes of one are read as the number that they spell.
   Correspondence:
     `as_str`, `as_u64`             ↔ `asText?`, `asNat?`
     `as_i64`, `as_f64`             ↔ `asInt?`, `asFloat?`
     `from_radix_10_checked`        ↔ `leadingNat`
     `from_radix_10_signed_checked` ↔ `leadingInt` -/
namespace SqlBatch

namespace Decimal

/-- The number that the digits at the front of a text spell, if `limit` reaches it, and how many
    characters were taken. No digits are zero. -/
def leadingNat (limit : Nat) (cs : List Char) : Option Nat × Nat :=
  let ds := cs.takeWhile isDigit
  (natUpTo? limit ds, ds.length)

/-- The integer that the digits at the front of a text spell with at most one sign before them, if
    64 bits hold it, and how many characters were taken. -/
def leadingInt (cs : List Char) : Option Int × Nat :=
  let (negative, rest) := splitSign cs
  let (size, used) := leadingNat (if negative then 0x8000000000000000 else 0x7FFFFFFFFFFFFFFF) rest
  (size.map fun n : Nat => if negative then -(n : Int) else n, cs.length - rest.length + used)

/-- What was read from the front of a text, if something was taken and nothing is left. -/
def whole? {α : Type} (cs : List Char) : Option α × Nat → Option α
  | (some a, used) => if used = cs.length ∧ 0 < used then some a else none
  | (none, _) => none

/-- The natural number below `2 ^ 64` that a text of ASCII digits spells. -/
def nat64? (cs : List Char) : Option Nat := whole? cs (leadingNat (UInt64.size - 1) cs)

/-- The integer that digits with at most one sign before them spell, if 64 bits hold it. A sign
    alone is zero. -/
def int64? (cs : List Char) : Option Int := whole? cs (leadingInt cs)

end Decimal

namespace Value

/-- The text that the value is or whose bytes it holds. -/
def asText? : Value → Option String
  | .text s => some s
  | .blob bytes => Text.ofUtf8? bytes
  | _ => none

/-- The characters of that text between its blank ends. -/
def trimmed? (v : Value) : Option (List Char) :=
  v.asText?.map fun s => Text.dropBlankEnds s.toList

/-- The value as a natural number below `2 ^ 64`. A double counts up to `2 ^ 64` itself, which
    is taken for the greatest such number. -/
def asNat? : Value → Option Nat
  | .boolean b => some (if b then 1 else 0)
  | .signed n => if 0 ≤ n.toInt then some n.toInt.toNat else none
  | .unsigned n => some n.toNat
  | .float x =>
    x.integer?.bind fun n =>
      if 0 ≤ n ∧ n ≤ UInt64.size then some (min n.toNat (UInt64.size - 1)) else none
  | v@(.text _) | v@(.blob _) => v.trimmed?.bind Decimal.nat64?
  | _ => none

/-- The value as an integer from `-2 ^ 63` to below `2 ^ 63`. A double counts up to `2 ^ 63`
    itself, which is taken for the greatest such integer. -/
def asInt? : Value → Option Int
  | .boolean b => some (if b then 1 else 0)
  | .signed n => some n.toInt
  | .unsigned n => if n.toNat < 0x8000000000000000 then some n.toNat else none
  | .float x =>
    x.integer?.bind fun n =>
      if -0x8000000000000000 ≤ n ∧ n ≤ 0x8000000000000000 then some (min n 0x7FFFFFFFFFFFFFFF)
      else none
  | v@(.text _) | v@(.blob _) => v.trimmed?.bind Decimal.int64?
  | _ => none

/-- The value as a double. -/
def asFloat? : Value → Option Binary64
  | .signed n => some (.ofInt n.toInt)
  | .unsigned n => some (.ofInt n.toNat)
  | .float x => some x
  | v@(.text _) | v@(.blob _) => v.trimmed?.bind Decimal.read?
  | _ => none

end Value

end SqlBatch
