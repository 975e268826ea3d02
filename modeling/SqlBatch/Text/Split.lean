/- Texts taken apart at a character.
   Correspondence:
     `split` at a character ↔ `splitOn` -/
namespace SqlBatch.Text

/-- The parts between the occurrences of a character, always at least one. -/
def splitOn (separator : Char) : List Char → List (List Char)
  | [] => [[]]
  | c :: cs =>
    if c = separator then [] :: splitOn separator cs
    else
      match splitOn separator cs with
      | part :: parts => (c :: part) :: parts
      | [] => [[c]]

end SqlBatch.Text
