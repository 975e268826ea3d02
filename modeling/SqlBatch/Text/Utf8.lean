/- Texts as UTF-8 bytes. A byte index is a boundary of a text when a prefix of
   the text ends there; `floorBoundary` is the greatest boundary that a given
   index reaches. The decoder is one machine over the bytes, which the strict
   reader stops at the first fault and the lenient reader answers with U+FFFD,
   once for each maximal run of bytes that begins a character.
     1. `byteSize_take`: `takeBytes` is the prefix that ends at `floorBoundary`.
     2. `floorBoundary_le`: it does not lie beyond the index.
   Correspondence:
     `floor_char_boundary`          ↔ `floorBoundary`
     `from_utf8`, `from_utf8_lossy` ↔ `ofUtf8?`, `ofUtf8Lossy` -/
namespace SqlBatch.Text

/-- How many bytes the characters take. -/
def byteSize : List Char → Nat
  | [] => 0
  | c :: cs => c.utf8Size + byteSize cs

/-- The bytes of a text. -/
def utf8 (s : String) : List UInt8 :=
  s.toList.flatMap String.utf8EncodeChar

/-- The greatest boundary of the text that is not beyond the index. -/
def floorBoundary : List Char → Nat → Nat
  | [], _ => 0
  | c :: cs, n => if n < c.utf8Size then 0 else c.utf8Size + floorBoundary cs (n - c.utf8Size)

/-- The characters that lie wholly within the first `n` bytes. -/
def takeBytes : List Char → Nat → List Char
  | [], _ => []
  | c :: cs, n => if n < c.utf8Size then [] else c :: takeBytes cs (n - c.utf8Size)

theorem byteSize_take (cs : List Char) (n : Nat) :
    byteSize (takeBytes cs n) = floorBoundary cs n := by
  induction cs generalizing n with
  | nil => rfl
  | cons c cs ih =>
    simp only [takeBytes, floorBoundary]
    split
    · rfl
    · simpa [byteSize] using ih (n - c.utf8Size)

theorem floorBoundary_le (cs : List Char) (n : Nat) : floorBoundary cs n ≤ n := by
  induction cs generalizing n with
  | nil => exact Nat.zero_le n
  | cons c cs ih =>
    simp only [floorBoundary]
    split
    · exact Nat.zero_le n
    · have := ih (n - c.utf8Size); omega

/-- Where the decoder stands between two bytes. -/
inductive DecoderState where
  /-- Between characters. -/
  | start
  /-- `missing + 1` bytes are owed, the next one in the given range, after bits worth `code`. -/
  | inside (missing : Nat) (low high : Nat) (code : Nat)
  deriving DecidableEq, Repr

/-- What a byte does to the decoder. -/
inductive DecoderStep where
  /-- It completes a character. -/
  | emit (c : Char)
  /-- It begins or continues one. -/
  | more (state : DecoderState)
  /-- No character has it here. -/
  | fault
  deriving DecidableEq, Repr

/-- A byte between characters. -/
def firstByte (b : Nat) : DecoderStep :=
  if b < 0x80 then .emit (Char.ofNat b)
  else if 0xC2 ≤ b && b ≤ 0xDF then .more (.inside 0 0x80 0xBF (b - 0xC0))
  else if b = 0xE0 then .more (.inside 1 0xA0 0xBF 0)
  else if b = 0xED then .more (.inside 1 0x80 0x9F 0xD)
  else if 0xE1 ≤ b && b ≤ 0xEF then .more (.inside 1 0x80 0xBF (b - 0xE0))
  else if b = 0xF0 then .more (.inside 2 0x90 0xBF 0)
  else if 0xF1 ≤ b && b ≤ 0xF3 then .more (.inside 2 0x80 0xBF (b - 0xF0))
  else if b = 0xF4 then .more (.inside 2 0x80 0x8F 4)
  else .fault

/-- A byte in any state. -/
def DecoderState.step : DecoderState → Nat → DecoderStep
  | .start, b => firstByte b
  | .inside missing low high code, b =>
    if low ≤ b && b ≤ high then
      match missing with
      | 0 => .emit (Char.ofNat (code * 64 + (b - 0x80)))
      | m + 1 => .more (.inside m 0x80 0xBF (code * 64 + (b - 0x80)))
    else .fault

/-- The characters of the bytes, or none at the first fault. -/
def decodeFrom : DecoderState → List UInt8 → Option (List Char)
  | .start, [] => some []
  | .inside .., [] => none
  | state, b :: bs =>
    match state.step b.toNat with
    | .emit c => (decodeFrom .start bs).map (c :: ·)
    | .more state => decodeFrom state bs
    | .fault => none

/-- The text of the bytes, none when they are not UTF-8. -/
def ofUtf8? (bs : List UInt8) : Option String :=
  (decodeFrom .start bs).map String.ofList

/-- What stands for bytes that are no character. -/
def replacement : Char := '\uFFFD'

/-- The characters of the bytes, a replacement for each begun character that breaks off
    and for each byte that begins none. -/
def decodeLossyFrom : DecoderState → List UInt8 → List Char
  | .start, [] => []
  | .inside .., [] => [replacement]
  | .start, b :: bs =>
    match firstByte b.toNat with
    | .emit c => c :: decodeLossyFrom .start bs
    | .more state => decodeLossyFrom state bs
    | .fault => replacement :: decodeLossyFrom .start bs
  | state@(.inside ..), b :: bs =>
    match state.step b.toNat with
    | .emit c => c :: decodeLossyFrom .start bs
    | .more state => decodeLossyFrom state bs
    | .fault =>
      replacement ::
        match firstByte b.toNat with
        | .emit c => c :: decodeLossyFrom .start bs
        | .more state => decodeLossyFrom state bs
        | .fault => replacement :: decodeLossyFrom .start bs

/-- The text of the bytes, with replacements for what is not UTF-8. -/
def ofUtf8Lossy (bs : List UInt8) : String :=
  String.ofList (decodeLossyFrom .start bs)

end SqlBatch.Text
