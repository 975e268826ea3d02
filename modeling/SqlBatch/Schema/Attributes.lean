/- The attributes of a column, a set of eight flags held as the bits of a byte.
   Correspondence:
     `ColumnAttributes`, `contains` ↔ `Attributes`, `Attributes.contains`
     `bitor`                        ↔ `Attributes.union` -/
namespace SqlBatch

/-- A set of column attributes. -/
structure Attributes where
  bits : UInt8
  deriving DecidableEq, Repr

namespace Attributes

def none : Attributes := ⟨0x00⟩
def primaryKey : Attributes := ⟨0x01⟩
def notNull : Attributes := ⟨0x02⟩
def unique : Attributes := ⟨0x04⟩
def binary : Attributes := ⟨0x08⟩
def unsigned : Attributes := ⟨0x10⟩
def zeroFill : Attributes := ⟨0x20⟩
def autoIncrement : Attributes := ⟨0x40⟩
def generated : Attributes := ⟨0x80⟩

/-- The attributes that are in either set. -/
def union (a b : Attributes) : Attributes := ⟨a.bits ||| b.bits⟩

/-- Every attribute of the second set is in the first. -/
def contains (a b : Attributes) : Bool := a.bits &&& b.bits = b.bits

instance : Union Attributes := ⟨union⟩

theorem contains_union_left (a b : Attributes) : (a ∪ b).contains a = true := by
  simp only [contains, decide_eq_true_eq]
  show (a.bits ||| b.bits) &&& a.bits = a.bits
  rw [← UInt8.toBitVec_inj]
  ext i
  simp +contextual

end Attributes

end SqlBatch
