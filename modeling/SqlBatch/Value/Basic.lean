import SqlBatch.Argument
import SqlBatch.Json.Basic
/- The scalars that statements write and rows bring back.
   Correspondence:
     `Value`, `VariableName` ↔ `Value`, `VariableName`
     `Value::variable`       ↔ `Value.ofVariableName`
     `is_null`               ↔ `Value.isNull` -/
namespace SqlBatch

/-- A character that a session variable's name may hold after its `@`. -/
def isVariableChar (c : Char) : Bool :=
  c.isAlphanum || c = '_' || c = '$' || c = '.'

/-- An `@` and at least one character after it, all of them letters, digits, `_`, `$` or `.` of
    ASCII. -/
def isVariableName (s : String) : Bool :=
  match s.toList with
  | '@' :: c :: cs => (c :: cs).all isVariableChar
  | _ => false

/-- The name of a session variable. -/
structure VariableName where
  text : String
  valid : isVariableName text = true
  deriving DecidableEq

/-- A scalar. -/
inductive Value where
  | null
  | boolean (value : Bool)
  /-- A signed integer of 64 bits. -/
  | signed (value : Int64)
  /-- An unsigned integer of 64 bits. -/
  | unsigned (value : UInt64)
  | float (value : Binary64)
  | text (value : String)
  | blob (bytes : List UInt8)
  | json (document : Json)
  /-- The identifier that the last insertion generated. -/
  | lastInsertId
  | variable (name : VariableName)

namespace Value

/-- The reference to a session variable, if the text is a name of one. -/
def ofVariableName (name : String) : Except ArgumentError Value :=
  if h : isVariableName name = true then .ok (.variable ⟨name, h⟩)
  else .error (.variableName name)

/-- The value is null. -/
def isNull : Value → Bool
  | .null => true
  | _ => false

/-- Equality of values of one kind; numbers of different kinds never are equal. -/
def same : Value → Value → Bool
  | .null, .null => true
  | .boolean a, .boolean b => a = b
  | .signed a, .signed b => a = b
  | .unsigned a, .unsigned b => a = b
  | .float a, .float b => a.same b
  | .text a, .text b => a = b
  | .blob a, .blob b => a = b
  | .json a, .json b => a.same b
  | .lastInsertId, .lastInsertId => true
  | .variable a, .variable b => a = b
  | _, _ => false

/-- A text is refused as a variable exactly when it is not a name of one. -/
theorem ofVariableName_eq_error_iff (name : String) (e : ArgumentError) :
    ofVariableName name = .error e ↔ isVariableName name = false ∧ e = .variableName name := by
  unfold ofVariableName
  split
  · next h => simp [h]
  · next h => simp [h, eq_comm]

end Value

end SqlBatch
