import SqlBatch.Json.Basic
import SqlBatch.Decimal.Reading
import SqlBatch.Text.Hex
/- Reading JSON documents. Each reader takes the characters that are left and
   returns what it read with those after it. Depth is bounded by the length of the
   text, which every nested document shortens. -/
namespace SqlBatch.Json

/-- The characters after the white space that JSON allows between its tokens. -/
def skipSpace (cs : List Char) : List Char :=
  cs.dropWhile fun c => c = ' ' || c = '\t' || c = '\n' || c = '\r'

/-- The number that four hexadecimal digits spell. -/
def hexUnit : List Char → Option (Nat × List Char)
  | a :: b :: c :: d :: rest => (Text.natOfHex? (String.ofList [a, b, c, d])).map fun n => (n, rest)
  | _ => none

/-- The character of the escape that a backslash begins. A high surrogate takes the low one
    that must follow. -/
def readEscape : List Char → Option (Char × List Char)
  | '"' :: rest => some ('"', rest)
  | '\\' :: rest => some ('\\', rest)
  | '/' :: rest => some ('/', rest)
  | 'b' :: rest => some ('\x08', rest)
  | 'f' :: rest => some ('\x0c', rest)
  | 'n' :: rest => some ('\n', rest)
  | 'r' :: rest => some ('\r', rest)
  | 't' :: rest => some ('\t', rest)
  | 'u' :: rest => do
    let (unit, rest) ← hexUnit rest
    if 0xD800 ≤ unit && unit < 0xDC00 then
      match rest with
      | '\\' :: 'u' :: rest =>
        let (low, rest) ← hexUnit rest
        if 0xDC00 ≤ low && low < 0xE000 then
          return (Char.ofNat (0x10000 + (unit - 0xD800) * 0x400 + (low - 0xDC00)), rest)
        else none
      | _ => none
    else if 0xDC00 ≤ unit && unit < 0xE000 then none
    else return (Char.ofNat unit, rest)
  | _ => none

/-- The rest of a string whose opening quote was read, before the characters already read in
    reverse order. -/
def readString : Nat → List Char → List Char → Option (String × List Char)
  | 0, _, _ => none
  | fuel + 1, done, cs =>
    match cs with
    | [] => none
    | '"' :: rest => some (String.ofList done.reverse, rest)
    | '\\' :: rest => do
      let (c, rest) ← readEscape rest
      readString fuel (c :: done) rest
    | c :: rest => if c.toNat < 0x20 then none else readString fuel (c :: done) rest

/-- The characters of a number at the front of a text. -/
def isNumberChar (c : Char) : Bool :=
  Decimal.isDigit c || c = '-' || c = '+' || c = '.' || c = 'e' || c = 'E'

/-- A double as a number, which has to be finite. -/
def finite? (x : Binary64) : Option Json :=
  if x.isFinite then some (.float x) else none

/-- The number that the characters spell. Digits alone are an integer if 64 bits hold it. -/
def number? (cs : List Char) : Option Json :=
  let negative := cs.head? = some '-'
  let unsigned := if negative then cs.drop 1 else cs
  let whole := unsigned.takeWhile Decimal.isDigit
  let tail := unsigned.dropWhile Decimal.isDigit
  let pointed := tail.head? = some '.'
  if whole = [] || (whole.head? = some '0' && whole.length ≠ 1)
    || (pointed && ((tail.drop 1).takeWhile Decimal.isDigit) = []) then none
  else if tail = [] then
    let n : Int := if negative then -(Decimal.natOf whole : Int) else Decimal.natOf whole
    if -0x8000000000000000 ≤ n && n < 0x10000000000000000 && !(negative && n = 0) then some (.int n)
    else finite? (.ofDecimal negative (Decimal.natOf whole) 0)
  else
    (Decimal.unsigned? unsigned).bind fun (digits, exponent) =>
      finite? (.ofDecimal negative digits exponent)

/-- The characters after a word that must come first. -/
def expect (word : List Char) (cs : List Char) : Option (List Char) :=
  if word.isPrefixOf cs then some (cs.drop word.length) else none

mutual

/-- The document at the front of a text. -/
def read : Nat → List Char → Option (Json × List Char)
  | 0, _ => none
  | fuel + 1, cs =>
    match skipSpace cs with
    | 'n' :: rest => (expect ['u', 'l', 'l'] rest).map fun rest => (.null, rest)
    | 't' :: rest => (expect ['r', 'u', 'e'] rest).map fun rest => (.bool true, rest)
    | 'f' :: rest => (expect ['a', 'l', 's', 'e'] rest).map fun rest => (.bool false, rest)
    | '"' :: rest => (readString (rest.length + 1) [] rest).map fun (s, rest) => (.text s, rest)
    | '[' :: rest =>
      match skipSpace rest with
      | ']' :: rest => some (.array [], rest)
      | _ => (readItems fuel rest).map fun (items, rest) => (.array items, rest)
    | '\x7b' :: rest =>
      match skipSpace rest with
      | '\x7d' :: rest => some (.object [], rest)
      | _ => (readFields fuel rest).map fun (fields, rest) => (ofFields fields, rest)
    | rest =>
      (number? (rest.takeWhile isNumberChar)).map fun n => (n, rest.dropWhile isNumberChar)

/-- Items up to the bracket that closes them. -/
def readItems : Nat → List Char → Option (List Json × List Char)
  | 0, _ => none
  | fuel + 1, cs => do
    let (x, rest) ← read fuel cs
    match skipSpace rest with
    | ']' :: rest => return ([x], rest)
    | ',' :: rest =>
      let (xs, rest) ← readItems fuel rest
      return (x :: xs, rest)
    | _ => none

/-- Fields up to the brace that closes them. -/
def readFields : Nat → List Char → Option (List (String × Json) × List Char)
  | 0, _ => none
  | fuel + 1, cs => do
    let '"' :: rest := skipSpace cs | none
    let (key, rest) ← readString (rest.length + 1) [] rest
    let ':' :: rest := skipSpace rest | none
    let (x, rest) ← read fuel rest
    match skipSpace rest with
    | '\x7d' :: rest => return ([(key, x)], rest)
    | ',' :: rest =>
      let (fs, rest) ← readFields fuel rest
      return ((key, x) :: fs, rest)
    | _ => none

end

/-- The document that the whole of a text spells. -/
def ofText? (s : String) : Option Json :=
  match read (2 * s.length + 2) s.toList with
  | some (doc, rest) => if skipSpace rest = [] then some doc else none
  | none => none

end SqlBatch.Json
