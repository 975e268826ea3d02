import SqlBatch.Text.Mark
/- The directions in which characters are read. Once a domain has a character that
   is not read from left to right, each label has to read in one direction, so that
   the labels stay where they are when the domain is shown. -/
namespace SqlBatch.Domain

/-- How a character is read. -/
inductive Direction where
  | leftToRight
  | rightToLeft
  /-- A digit that is read from left to right. -/
  | number
  /-- A digit of a text that is read from right to left. -/
  | arabicNumber
  /-- A mark, which is read as what is before it. -/
  | nonspacing
  /-- A sign, which is read as what is around it. -/
  | neutral
  deriving DecidableEq, Repr

/-- The code points at which letters read from right to left and other characters alternate,
    beginning with such a letter. -/
def rightToLeftTurns : List Nat :=
  [0x5BE, 0x5BF, 0x5C0, 0x5C1, 0x5C3, 0x5C4, 0x5C6, 0x5C7, 0x5D0, 0x606, 0x608, 0x609, 0x60B, 0x60C,
   0x60D, 0x60E, 0x61B, 0x64B, 0x66D, 0x670, 0x671, 0x6D6, 0x6E5, 0x6E7, 0x6EE, 0x6F0, 0x6FA, 0x711,
   0x712, 0x730, 0x74D, 0x7A6, 0x7B1, 0x7EB, 0x7F4, 0x7F6, 0x7FA, 0x7FD, 0x7FE, 0x816, 0x81A, 0x81B,
   0x824, 0x825, 0x828, 0x829, 0x830, 0x859, 0x85E, 0x897, 0x8A0, 0x8CA, 0xFBB2, 0xFBC3, 0xFE73,
   0x10000, 0x10800, 0x1091F, 0x10920, 0x10A01, 0x10A10, 0x10A38, 0x10A40, 0x10AE5, 0x10AEB,
   0x10B39, 0x10B40, 0x10D24, 0x10D4A, 0x10D69, 0x10D6F, 0x10E60, 0x10E80, 0x10EAB, 0x10EAD,
   0x10ED0, 0x10F00, 0x10F46, 0x10F51, 0x10F82, 0x10F86, 0x11000, 0x1E800, 0x1E8D0, 0x1E922,
   0x1E944, 0x1E94B, 0x1EEF0]

/-- The same for digits read from left to right. -/
def numberTurns : List Nat :=
  [0x30, 0x3B, 0x6F0, 0x6FA, 0x102E1, 0x10300]

/-- The same for digits of texts read from right to left. -/
def arabicNumberTurns : List Nat :=
  [0x660, 0x66A, 0x66B, 0x66D, 0x10D30, 0x10D4A, 0x10E60, 0x10E80]

/-- The same for signs. -/
def neutralTurns : List Nat :=
  [0x21, 0x30, 0x3B, 0x61, 0x7B, 0xDF, 0xF7, 0xF8, 0x2B9, 0x2BB, 0x2C2, 0x2D0, 0x2D2, 0x2EE, 0x2EF,
   0x300, 0x375, 0x377, 0x3F6, 0x3F8, 0x58A, 0x591, 0x606, 0x608, 0x609, 0x60B, 0x60C, 0x60D, 0x60E,
   0x610, 0x66A, 0x66B, 0x6DE, 0x6DF, 0x6E9, 0x6EA, 0x7F6, 0x7FA, 0x9F2, 0x9F4, 0x9FB, 0x9FC, 0xAF1,
   0xAF9, 0xBF3, 0xC00, 0xC78, 0xC7F, 0xE3F, 0xE40, 0xF3A, 0xF3E, 0x1390, 0x13A0, 0x1400, 0x1401,
   0x169B, 0x16A0, 0x17DB, 0x17DC, 0x17F0, 0x1810, 0x1940, 0x1946, 0x19DE, 0x1A00, 0x200C, 0x20D0,
   0x2104, 0x214E, 0x218A, 0x2336, 0x237B, 0x2395, 0x2396, 0x26AC, 0x26AD, 0x2800, 0x2900, 0x2C30,
   0x2CE5, 0x2CEC, 0x2CF9, 0x2D00, 0x2E00, 0x3005, 0x3008, 0x3021, 0x3030, 0x3031, 0x3037, 0x303B,
   0x303D, 0x3041, 0x30A0, 0x30A1, 0x30FB, 0x30FC, 0x31C0, 0x31F0, 0x4DC0, 0x4E00, 0xA490, 0xA4D0,
   0xA60D, 0xA610, 0xA673, 0xA674, 0xA67E, 0xA681, 0xA700, 0xA723, 0xA788, 0xA789, 0xA828, 0xA82C,
   0xA838, 0xA840, 0xA874, 0xA880, 0xAB6A, 0xABC0, 0xFBC3, 0xFE20, 0xFE45, 0xFE73, 0x10101, 0x10102,
   0x10140, 0x1018D, 0x10190, 0x101D0, 0x1091F, 0x10920, 0x10B39, 0x10B40, 0x10D6E, 0x10D6F,
   0x10ED0, 0x10EFA, 0x11052, 0x11066, 0x11660, 0x11680, 0x11FD5, 0x11FFF, 0x16FE2, 0x16FE3,
   0x1CC00, 0x1CF00, 0x1D1E9, 0x1D242, 0x1D245, 0x1D2C0, 0x1D300, 0x1D360, 0x1E2FF, 0x1E4D0,
   0x1EEF0, 0x1F150, 0x1F16D, 0x1F170, 0x1F1AD, 0x1F1E6, 0x1F260, 0x20000]

/-- How a character that a domain can hold is read. -/
def direction (c : Char) : Direction :=
  if Text.isWithin rightToLeftTurns c then .rightToLeft
  else if Text.isWithin numberTurns c then .number
  else if Text.isWithin arabicNumberTurns c then .arabicNumber
  else if Text.isNonspacing c then .nonspacing
  else if Text.isWithin neutralTurns c then .neutral
  else .leftToRight

/-- The character is not read from left to right, whatever is around it. -/
def isRightward (c : Char) : Bool :=
  direction c = .rightToLeft || direction c = .arabicNumber

/-- The label reads in one direction: it begins with a letter of it, ends with a letter or a digit
    of it but for marks, and has none of the other direction. -/
def readsOneWay (label : List Char) : Bool :=
  match label.map direction with
  | [] => true
  | first :: rest =>
    let rest := (rest.reverse.dropWhile (· = .nonspacing)).reverse
    match first with
    | .leftToRight =>
      (rest.getLast?.all fun d => d = .leftToRight || d = .number)
        && !rest.contains .rightToLeft && !rest.contains .arabicNumber
    | .rightToLeft =>
      (rest.getLast?.all fun d => d = .rightToLeft || d = .number || d = .arabicNumber)
        && !rest.contains .leftToRight && !(rest.contains .number && rest.contains .arabicNumber)
    | _ => false

end SqlBatch.Domain
