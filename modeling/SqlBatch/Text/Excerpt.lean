import SqlBatch.Text.Blank
import SqlBatch.Text.Slice
import SqlBatch.Text.Utf8
/- The excerpt of a long text that messages quote: at most 497 bytes of it, cut
   between characters and without the blanks that end the piece, and three dots
   exactly when the text is longer than that. `excerpt?` cuts it out by byte indices,
   which could fail, and `excerpt` takes the characters that fit.
   Correspondence:
     `truncate_long` ↔ `excerpt?`, and what it gives `excerpt` -/
namespace SqlBatch.Text

/-- How many bytes of a text an excerpt shows at most. -/
def excerptLimit : Nat := 497

/-- The part of a text that a message quotes. -/
def excerpt (s : String) : String :=
  String.ofList (dropBlankEnd (takeBytes s.toList excerptLimit)) ++
    if excerptLimit < byteSize s.toList then "..." else ""

/-- The excerpt as it is cut out of the bytes of the text. There is none if a character is cut. -/
def excerpt? (s : String) : Option String := do
  let part ← slice? s 0 (findBoundary s excerptLimit)
  return trimEnd part ++ if excerptLimit < s.utf8ByteSize then "..." else ""

end SqlBatch.Text
