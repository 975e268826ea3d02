import SqlBatch.Value.Basic
import SqlBatch.Json.Printer
import SqlBatch.Text.Hex
import SqlBatch.Text.Shown
/- The form in which a message shows a value: the name of its kind, and what it
   holds in parentheses.
   Correspondence:
     `Debug` of `Value` ↔ `Value.inspect` -/
namespace SqlBatch

namespace Text

/-- The digits of a number in base sixteen, without leading zeros. -/
def hexDigits (n : Nat) : List Char :=
  Nat.toDigits 16 n

/-- A character inside an inspected text. -/
def inspectChar (c : Char) : List Char :=
  if c = '\x00' then ['\\', '0']
  else if c = '\t' then ['\\', 't']
  else if c = '\n' then ['\\', 'n']
  else if c = '\r' then ['\\', 'r']
  else if c = '\\' then ['\\', '\\']
  else if c = '"' then ['\\', '"']
  else if isShown c then [c]
  else '\\' :: 'u' :: '\x7b' :: (hexDigits c.toNat ++ ['\x7d'])

/-- A text in double quotes with escapes for what cannot be shown. -/
def inspect (s : String) : String :=
  "\"" ++ String.ofList (s.toList.flatMap inspectChar) ++ "\""

end Text

namespace Binary64

/-- Doubles are written out from `0.0001` up to below `1e16`. -/
def inspectLayout : NumberLayout := ⟨-4, 16, false⟩

/-- A double with names for what is no finite number. -/
def inspect (x : Binary64) : String :=
  if x.isNaN then "NaN"
  else if x.isFinite then inspectLayout.text x
  else if x.isNegative then "-inf" else "inf"

end Binary64

namespace Json

mutual

/-- A document with the name of its kind before what it holds. -/
def inspect : Json → String
  | .null => "Null"
  | .bool b => "Bool(" ++ (if b then "true" else "false") ++ ")"
  | .int n => "Number(" ++ toString n ++ ")"
  | .float x => "Number(" ++ numberLayout.text x ++ ")"
  | .text s => "String(" ++ Text.inspect s ++ ")"
  | .array xs => "Array [" ++ inspectItems xs ++ "]"
  | .object fs => "Object \x7b" ++ inspectFields fs ++ "\x7d"

/-- The items with commas between them. -/
def inspectItems : List Json → String
  | [] => ""
  | [x] => inspect x
  | x :: xs => inspect x ++ ", " ++ inspectItems xs

/-- The fields with commas between them. -/
def inspectFields : List (String × Json) → String
  | [] => ""
  | [(k, x)] => Text.inspect k ++ ": " ++ inspect x
  | (k, x) :: fs => Text.inspect k ++ ": " ++ inspect x ++ ", " ++ inspectFields fs

end

end Json

/-- A value with the name of its kind. -/
def Value.inspect : Value → String
  | .null => "Null"
  | .boolean b => "Boolean(" ++ (if b then "true" else "false") ++ ")"
  | .signed n => "Int64(" ++ toString n.toInt ++ ")"
  | .unsigned n => "UInt64(" ++ toString n.toNat ++ ")"
  | .float x => "Float64(" ++ x.inspect ++ ")"
  | .text s => "Varchar(" ++ Text.inspect s ++ ")"
  | .blob bytes => "Blob([" ++ ", ".intercalate (bytes.map fun b => toString b.toNat) ++ "])"
  | .json doc => "Json(" ++ doc.inspect ++ ")"
  | .lastInsertId => "LastInsertId"
  | .variable name => "Variable(VariableName(" ++ Text.inspect name.text ++ "))"

end SqlBatch
