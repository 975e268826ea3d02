import SqlBatch.Argument
import SqlBatch.Schema.Attributes
/- Columns: a name, what is stored, and attributes. A column belongs to no table
   until one is made of it.
     1. `declare_eq_ok_iff`: a column can be declared exactly when it has a name
        and its width is one that its type allows.
   Correspondence:
     `ColumnType`, `width`, `is_integer` ↔ `ColumnType`, `ColumnType.width?`, `ColumnType.isInteger`
     `Column::new`                       ↔ `Column.declare` -/
namespace SqlBatch

/-- What a column stores. -/
inductive ColumnType where
  /-- Characters, always `width` of them. -/
  | char (width : Nat)
  | tinyInt
  | smallInt
  | mediumInt
  | int
  | bigInt
  | longBlob
  /-- Characters, at most `width` of them. -/
  | varchar (width : Nat)
  deriving DecidableEq, Repr

namespace ColumnType

/-- The width of a character type. -/
def width? : ColumnType → Option Nat
  | .char w | .varchar w => some w
  | _ => none

/-- The type is one of integers. -/
def isInteger : ColumnType → Bool
  | .tinyInt | .smallInt | .mediumInt | .int | .bigInt => true
  | _ => false

/-- The greatest width of a character type. -/
def greatestWidth? : ColumnType → Option Nat
  | .char _ => some 255
  | .varchar _ => some 65535
  | _ => none

/-- The width, if there is one, is one that the type allows. -/
def widthAllowed (t : ColumnType) : Bool :=
  match t.width?, t.greatestWidth? with
  | some w, some greatest => 1 ≤ w && w ≤ greatest
  | _, _ => true

end ColumnType

/-- A column. `table` is empty while it belongs to none. -/
structure Column where
  name : String
  table : String
  type : ColumnType
  attributes : Attributes
  named : name ≠ ""
  allowed : type.widthAllowed = true
  deriving DecidableEq

namespace Column

/-- The fault of a width that its type does not allow. -/
def widthError (name : String) : ColumnType → ArgumentError
  | .varchar _ => .varcharWidth name
  | _ => .charWidth name

/-- A column that belongs to no table. -/
def declare (name : String) (type : ColumnType) (attributes : Attributes) :
    Except ArgumentError Column :=
  if named : name = "" then .error .emptyColumnName
  else if allowed : type.widthAllowed = true then
    .ok { name, table := "", type, attributes, named, allowed }
  else .error (widthError name type)

/-- The column belongs to a table. -/
def isAttached (c : Column) : Bool := c.table ≠ ""

/-- The column belongs to a table other than the given one. -/
def isForeignTo (c : Column) (table : String) : Bool :=
  c.isAttached && c.table ≠ table

/-- The column as one of the given table. -/
def placedIn (c : Column) (table : String) : Column := { c with table }

def isPrimaryKey (c : Column) : Bool := c.attributes.contains .primaryKey
def isUnique (c : Column) : Bool := c.attributes.contains .unique
def isNotNull (c : Column) : Bool := c.attributes.contains .notNull
def isUnsigned (c : Column) : Bool := c.attributes.contains .unsigned
def isAutoIncrement (c : Column) : Bool := c.attributes.contains .autoIncrement

@[simp] theorem placedIn_name (c : Column) (t : String) : (c.placedIn t).name = c.name := rfl
@[simp] theorem placedIn_table (c : Column) (t : String) : (c.placedIn t).table = t := rfl

@[simp] theorem placedIn_isPrimaryKey (c : Column) (t : String) :
    (c.placedIn t).isPrimaryKey = c.isPrimaryKey := rfl

/-- A declaration succeeds exactly with a name and an allowed width, and keeps what it was given. -/
theorem declare_eq_ok_iff {name : String} {type : ColumnType} {attributes : Attributes}
    {c : Column} : declare name type attributes = .ok c ↔
      c.name = name ∧ c.table = "" ∧ c.type = type ∧ c.attributes = attributes := by
  unfold declare
  constructor
  · intro h
    split at h
    · cases h
    · split at h
      · cases h; exact ⟨rfl, rfl, rfl, rfl⟩
      · cases h
  · rintro ⟨rfl, ht, rfl, rfl⟩
    rw [dif_neg c.named, dif_pos c.allowed, ← ht]

end Column

end SqlBatch
