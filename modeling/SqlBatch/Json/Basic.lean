import SqlBatch.Decimal.Layout
/- JSON documents. A number keeps how it was written: an integer that fits 64
   bits, signed or not, stays one, and any other number is a double. The fields of
   an object stand in the order of their keys, each key once.
   Correspondence:
     `JsonValue` ↔ `Json` -/
namespace SqlBatch

/-- A JSON document. -/
inductive Json where
  | null
  | bool (value : Bool)
  | int (value : Int)
  | float (value : Binary64)
  | text (value : String)
  | array (items : List Json)
  | object (fields : List (String × Json))

namespace Json

/-- A field put at its place in the order of the keys, over an older one of its key. -/
def putField (key : String) (value : Json) : List (String × Json) → List (String × Json)
  | [] => [(key, value)]
  | (k, v) :: rest =>
    if key = k then (key, value) :: rest
    else if key < k then (key, value) :: (k, v) :: rest
    else (k, v) :: putField key value rest

/-- The object of the fields; of two with one key the later one counts. -/
def ofFields (fields : List (String × Json)) : Json :=
  .object (fields.foldl (fun done f => putField f.1 f.2 done) [])

mutual

/-- Equality of documents. An integer and a double never are equal, doubles are by value. -/
def same : Json → Json → Bool
  | .null, .null => true
  | .bool a, .bool b => a = b
  | .int a, .int b => a = b
  | .float a, .float b => a.same b
  | .text a, .text b => a = b
  | .array xs, .array ys => sameItems xs ys
  | .object xs, .object ys => sameFields xs ys
  | _, _ => false

/-- Equality of the items, place by place. -/
def sameItems : List Json → List Json → Bool
  | [], [] => true
  | x :: xs, y :: ys => same x y && sameItems xs ys
  | _, _ => false

/-- Equality of the fields, place by place. -/
def sameFields : List (String × Json) → List (String × Json) → Bool
  | [], [] => true
  | (k, x) :: xs, (l, y) :: ys => k = l && same x y && sameFields xs ys
  | _, _ => false

end

/-- The value of a field of an object. -/
def field? (key : String) : Json → Option Json
  | .object fields => (fields.find? fun f => f.1 = key).map (·.2)
  | _ => none

end Json

end SqlBatch
