import SqlBatch.Value.Basic
import SqlBatch.Json.Printer
import SqlBatch.Text.Hex
/- Values as literals of a statement. The dialects differ in how they write a
   JSON document and in nothing else.
   Correspondence:
     `GenericSqlWriter`, `MySQLSqlWriter`     ↔ `Dialect.generic`, `Dialect.mysql`
     `write_value`                            ↔ `literal`
     `write_value_string`, `write_value_blob` ↔ `string`, `blob`
     `write_value_float`, `write_value_json`  ↔ `float`, `json` -/
namespace SqlBatch

/-- A dialect of statements. -/
inductive Dialect where
  /-- A document is a string. -/
  | generic
  /-- A document is a string cast to the server's own type. -/
  | mysql
  deriving DecidableEq, Repr

namespace Sql

/-- Doubles are written out from `0.00001` up to below `1e16`. -/
def numberLayout : NumberLayout := ⟨-5, 16, false⟩

/-- A character inside a string literal. The server takes a backslash as the start of an
    escape, so that every character special to it has one. -/
def escapeChar (c : Char) : List Char :=
  if c = '\x00' then ['\\', '0']
  else if c = '\x08' then ['\\', 'b']
  else if c = '\t' then ['\\', 't']
  else if c = '\n' then ['\\', 'n']
  else if c = '\r' then ['\\', 'r']
  else if c = '\x1a' then ['\\', 'Z']
  else if c = '"' then ['\\', '"']
  else if c = '\'' then ['\\', '\'']
  else if c = '\\' then ['\\', '\\']
  else [c]

/-- A string literal. -/
def string (s : String) : String :=
  "'" ++ String.ofList (s.toList.flatMap escapeChar) ++ "'"

/-- The literal of bytes, which has a form of its own for none. -/
def blob (bytes : List UInt8) : String :=
  if bytes = [] then "X''" else "0x" ++ Text.hex bytes

/-- The literal of a double; there is none for a number that is not finite but null. -/
def float (x : Binary64) : String :=
  if x.isFinite then numberLayout.text x else "NULL"

/-- The literal of a document. -/
def json : Dialect → Json → String
  | .generic, doc => string doc.render
  | .mysql, doc => "CAST(" ++ string doc.render ++ " AS JSON)"

/-- The literal of a value. -/
def literal (d : Dialect) : Value → String
  | .null => "NULL"
  | .boolean b => if b then "true" else "false"
  | .signed n => toString n.toInt
  | .unsigned n => toString n.toNat
  | .float x => float x
  | .text s => string s
  | .blob bytes => blob bytes
  | .json doc => json d doc
  | .lastInsertId => "LAST_INSERT_ID()"
  | .variable name => name.text

/-- A negative integer is written with a minus before its size. -/
theorem toList_negSucc (n : Nat) :
    (toString (Int.negSucc n)).toList = '-' :: (toString (n + 1)).toList := by
  show ("-" ++ toString (n + 1)).toList = _
  rw [String.toList_append]
  rfl

/-- The dialects agree on every value that is no document. -/
theorem literal_mysql_eq_generic {v : Value} (h : ∀ doc, v ≠ .json doc) :
    literal .mysql v = literal .generic v := by
  cases v with
  | json doc => exact absurd rfl (h doc)
  | _ => rfl

end Sql

end SqlBatch
