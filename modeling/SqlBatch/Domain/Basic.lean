import SqlBatch.Domain.Direction
import SqlBatch.Domain.Joining
import SqlBatch.Domain.Mapping
import SqlBatch.Domain.Punycode
/- Domains: labels between points, of characters of any script. Their characters are
   mapped and composed, what labels spell in ASCII is read, and each label is
   checked. Two texts name one domain when the same labels come of them. -/
namespace SqlBatch.Domain

/-- A character that stands in no domain of an address: a control, a blank or a sign that has a
    meaning there. -/
def isReserved (c : Char) : Bool :=
  c.toNat ≤ 0x20 || c.toNat = 0x7F
    || ['%', '#', '/', ':', '<', '>', '?', '@', '[', '\\', ']', '^', '|'].contains c

/-- The character has seven bits. -/
def isAscii (c : Char) : Bool := c.toNat < 0x80

/-- The most characters of a label that has to be spelled in ASCII. -/
def labelLimit : Nat := 1000

/-- The most characters that spell a label. -/
def spellingLimit : Nat := 2000

/-- The label that is spelled. It is as mapping and composing would leave it. -/
def spelled? (spelling : List Char) : Option (List Char) := do
  guard (spelling.all isAscii && spelling.length ≤ spellingLimit)
  guard (spelling.getLast?.any (· ≠ '-'))
  let label ← Punycode.decode? spelling
  guard (label.all fun c => mapChar? c = some [c] && !isReserved c && c ≠ '.')
  guard (Text.compose label = label)
  return label

/-- A label that does not begin like one that is spelled in ASCII is meant as it is. -/
def read? : List Char → Option (List Char)
  | 'x' :: 'n' :: '-' :: '-' :: spelling => spelled? spelling
  | label => some label

/-- The label begins with no mark, joins where it says so, and is not too long. -/
def isLabel (label : List Char) : Bool :=
  !(label.head?.any Text.isMark) && joinersFit label
    && (label.all isAscii || label.length ≤ labelLimit)

/-- The labels of a domain, if the characters are one. -/
def labels? (cs : List Char) : Option (List (List Char)) := do
  let mapped ← cs.mapM mapChar?
  let composed := Text.compose mapped.flatten
  guard (!composed.any isReserved)
  let labels ← (Text.splitOn '.' composed).mapM read?
  guard (labels.all isLabel)
  guard (!(labels.any fun label => label.any isRightward) || labels.all readsOneWay)
  return labels

/-- The characters of a domain as they are compared, if they are one. -/
def ofChars? (cs : List Char) : Option (List Char) :=
  (labels? cs).map ['.'].intercalate

end SqlBatch.Domain
