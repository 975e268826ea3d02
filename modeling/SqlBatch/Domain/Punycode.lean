/- Labels that spell other characters with ASCII ones. First come the label's ASCII
   characters and a hyphen, then the places and numbers of the others as differences
   in a variable base. All numbers have 32 bits. -/
namespace SqlBatch.Domain.Punycode

/-- The number of a digit. -/
def digit? (c : Char) : Option Nat :=
  let n := c.toNat
  if 0x61 ≤ n && n ≤ 0x7A then some (n - 0x61)
  else if 0x41 ≤ n && n ≤ 0x5A then some (n - 0x41)
  else if 0x30 ≤ n && n ≤ 0x39 then some (n - 0x30 + 26)
  else none

/-- The least number that ends a difference at a digit of the given weight. -/
def threshold (k bias : Nat) : Nat :=
  if k ≤ bias then 1 else if bias + 26 ≤ k then 26 else k - bias

/-- The difference reduced until it fits, and the weights skipped on the way. -/
def reduce (delta k : Nat) : Nat × Nat :=
  if h : 455 < delta then reduce (delta / 35) (k + 36) else (delta, k)
termination_by delta
decreasing_by exact Nat.div_lt_self (by omega) (by omega)

/-- The bias after a difference was read, `count` characters being known then. -/
def adapt (delta count : Nat) (first : Bool) : Nat :=
  let delta := if first then delta / 700 else delta / 2
  let (delta, k) := reduce (delta + delta / count) 0
  k + 36 * delta / (delta + 38)

/-- The number if it has 32 bits. -/
def inRange? (n : Nat) : Option Nat := if n < UInt32.size then some n else none

/-- A difference added to a number, and the characters after it. -/
def readDelta (bias : Nat) : List Char → (k weight sum : Nat) → Option (Nat × List Char)
  | [], _, _, _ => none
  | c :: rest, k, weight, sum => do
    let d ← digit? c
    let sum ← inRange? (sum + d * weight)
    if d < threshold k bias then return (sum, rest)
    let weight ← inRange? (weight * (36 - threshold k bias))
    readDelta bias rest (k + 36) weight sum

/-- The label of the known characters and of those that the differences put between them. -/
def decodeFrom : Nat → (code place bias : Nat) → List Char → List Char → Option (List Char)
  | _, _, _, _, known, [] => some known
  | 0, _, _, _, _, _ => none
  | fuel + 1, code, place, bias, known, cs => do
    let (next, rest) ← readDelta bias cs 36 1 place
    let count := known.length + 1
    let code := code + next / count
    let bias := adapt (next - place) count (place = 0)
    let place := next % count
    if code.isValidChar then
      decodeFrom fuel code (place + 1) bias
        (known.take place ++ Char.ofNat code :: known.drop place) rest
    else none

/-- The label that is spelled. The last hyphen ends the ASCII characters, unless none is before
    it. -/
def decode? (cs : List Char) : Option (List Char) :=
  let tail := (cs.reverse.takeWhile (· ≠ '-')).reverse
  let known := cs.take (cs.length - tail.length - 1)
  decodeFrom (cs.length + 1) 128 0 72 known (if known = [] then cs else tail)

end SqlBatch.Domain.Punycode
