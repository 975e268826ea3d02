/- Bytes as hexadecimal digits, two lower case digits a byte, the higher first. -/
namespace SqlBatch.Text

/-- The digit of a number below sixteen. -/
def hexDigit (n : Nat) : Char :=
  if n < 10 then Char.ofNat (0x30 + n) else Char.ofNat (0x61 + (n - 10))

/-- The number of a digit in either case. -/
def hexValue? (c : Char) : Option Nat :=
  let n := c.toNat
  if 0x30 ≤ n && n ≤ 0x39 then some (n - 0x30)
  else if 0x61 ≤ n && n ≤ 0x66 then some (n - 0x61 + 10)
  else if 0x41 ≤ n && n ≤ 0x46 then some (n - 0x41 + 10)
  else none

/-- The two digits of a byte. -/
def hexByte (b : UInt8) : List Char :=
  [hexDigit (b.toNat / 16), hexDigit (b.toNat % 16)]

/-- The digits of the bytes. -/
def hex (bs : List UInt8) : String :=
  String.ofList (bs.flatMap hexByte)

/-- The bytes of pairs of digits. -/
def bytesOfHexChars? : List Char → Option (List UInt8)
  | [] => some []
  | [_] => none
  | a :: b :: rest => do
    let high ← hexValue? a
    let low ← hexValue? b
    let bytes ← bytesOfHexChars? rest
    return UInt8.ofNat (16 * high + low) :: bytes

/-- The bytes of a hexadecimal text. -/
def bytesOfHex? (s : String) : Option (List UInt8) :=
  bytesOfHexChars? s.toList

/-- The number that hexadecimal digits spell. -/
def natOfHex? (s : String) : Option Nat :=
  s.toList.foldlM (fun n c => (hexValue? c).map (16 * n + ·)) 0

end SqlBatch.Text
