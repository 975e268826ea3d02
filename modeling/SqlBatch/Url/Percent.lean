import SqlBatch.Text.Hex
import SqlBatch.Text.Utf8
/- Percent encoding: a byte as a percent sign and its two digits. -/
namespace SqlBatch.Url

/-- A byte as three characters, the digits in upper case. -/
def encodeByte (b : UInt8) : List Char :=
  '%' :: (Text.hexByte b).map Char.toUpper

/-- The bytes of the characters, with a percent sign and two digits after it read as one byte. A
    percent sign without two digits stands for itself. -/
def decode : List UInt8 → List UInt8
  | [] => []
  | p :: a :: b :: rest =>
    if p = 0x25 then
      match Text.hexValue? (Char.ofNat a.toNat), Text.hexValue? (Char.ofNat b.toNat) with
      | some high, some low => UInt8.ofNat (16 * high + low) :: decode rest
      | _, _ => p :: decode (a :: b :: rest)
    else p :: decode (a :: b :: rest)
  | b :: rest => b :: decode rest

/-- A character that the path of an address cannot hold as it is. -/
def isPathEncoded (c : Char) : Bool :=
  c.toNat ≤ 0x20 || 0x7F ≤ c.toNat || ['"', '#', '<', '>', '?', '`', '\x7b', '\x7d'].contains c

/-- The characters of a path segment, the bytes of some of them encoded. -/
def encodeSegment (cs : List Char) : List Char :=
  cs.flatMap fun c =>
    if isPathEncoded c then (String.utf8EncodeChar c).flatMap encodeByte else [c]

end SqlBatch.Url
