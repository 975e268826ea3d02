import SqlBatch.Text.Hex
import SqlBatch.Text.Split
/- Tables of characters, with the data of Unicode 17. A set is the list of the code
   points at which members and other characters alternate, beginning with a member.
   A map is a text of hexadecimal numbers: blanks and line ends are between the
   entries, points between the numbers of one. -/
namespace SqlBatch.Text

/-- How many of the turns lie at or before a code point. -/
def turnsUpTo (n : Nat) : List Nat → Nat
  | [] => 0
  | t :: rest => if t ≤ n then 1 + turnsUpTo n rest else 0

/-- The character is a member of the set with the given turns. -/
def isWithin (turns : List Nat) (c : Char) : Bool :=
  turnsUpTo c.toNat turns % 2 = 1

/-- The entries of a map, each with its numbers. -/
def entries (table : String) : List (List Nat) :=
  let lines := splitOn '\n' table.toList
  ((lines.flatMap (splitOn ' ')).filter (· ≠ [])).map fun entry =>
    (splitOn '.' entry).map fun digits =>
      digits.foldl (fun n c => 16 * n + (hexValue? c).getD 0) 0

/-- The entries of a map of three numbers each. -/
def triples (table : String) : List (Nat × Nat × Nat) :=
  (entries table).filterMap fun
    | [a, b, c] => some (a, b, c)
    | _ => none

/-- The entries of a map, each a number and those that belong to it. -/
def lists (table : String) : List (Nat × List Nat) :=
  (entries table).filterMap fun
    | a :: rest => some (a, rest)
    | [] => none

end SqlBatch.Text
