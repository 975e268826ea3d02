import SqlBatch.Json.Basic
import SqlBatch.Text.Hex
/- The compact text of a JSON document: no blanks, and strings in double quotes
   with escapes for the quote, the backslash and the control characters only.
   Correspondence:
     `to_string` in `write_value_json` ↔ `Json.render` -/
namespace SqlBatch.Json

/-- Doubles are written out from `0.00001` up to below `1e16`, and a positive exponent carries
    a plus. -/
def numberLayout : NumberLayout := ⟨-5, 16, true⟩

/-- A character inside a quoted string. -/
def escapeChar (c : Char) : List Char :=
  if c = '"' then ['\\', '"']
  else if c = '\\' then ['\\', '\\']
  else if c = '\x08' then ['\\', 'b']
  else if c = '\t' then ['\\', 't']
  else if c = '\n' then ['\\', 'n']
  else if c = '\x0c' then ['\\', 'f']
  else if c = '\r' then ['\\', 'r']
  else if c.toNat < 0x20 then '\\' :: 'u' :: '0' :: '0' :: Text.hexByte (UInt8.ofNat c.toNat)
  else [c]

/-- A quoted string. -/
def quote (s : String) : String :=
  "\"" ++ String.ofList (s.toList.flatMap escapeChar) ++ "\""

mutual

/-- The compact text of a document. -/
def render : Json → String
  | .null => "null"
  | .bool true => "true"
  | .bool false => "false"
  | .int n => toString n
  | .float x => numberLayout.text x
  | .text s => quote s
  | .array xs => "[" ++ renderItems xs ++ "]"
  | .object fs => "\x7b" ++ renderFields fs ++ "\x7d"

/-- The items with commas between them. -/
def renderItems : List Json → String
  | [] => ""
  | [x] => render x
  | x :: xs => render x ++ "," ++ renderItems xs

/-- The fields with commas between them. -/
def renderFields : List (String × Json) → String
  | [] => ""
  | [(k, x)] => quote k ++ ":" ++ render x
  | (k, x) :: fs => quote k ++ ":" ++ render x ++ "," ++ renderFields fs

end

end SqlBatch.Json
