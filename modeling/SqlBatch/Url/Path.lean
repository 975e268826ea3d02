import SqlBatch.Url.Percent
/- The paths of addresses, as the segments between their slashes. A segment of one
   dot stands for where it is, one of two dots takes the segment before it away,
   unless that is a drive of a file system. -/
namespace SqlBatch.Url

/-- The character ends a segment; a backslash does so under the common schemes. -/
def isSlash (common : Bool) (c : Char) : Bool :=
  c = '/' || (common && c = '\\')

/-- The character ends the path. -/
def endsPath (c : Char) : Bool := c = '?' || c = '#'

/-- A tab or a line end, which is no part of an address. -/
def isBreak (c : Char) : Bool := c = '\t' || c = '\n' || c = '\r'

/-- The characters without the tabs and line ends. -/
def unbroken (cs : List Char) : List Char := cs.filter fun c => !isBreak c

/-- The segments of the characters, always at least one. -/
def splitPath (common : Bool) : List Char → List (List Char)
  | [] => [[]]
  | c :: cs =>
    if isSlash common c then [] :: splitPath common cs
    else
      match splitPath common cs with
      | segment :: rest => (c :: segment) :: rest
      | [] => [[c]]

/-- The segment with its encoded dots as dots. -/
def plainDots : List Char → List Char
  | '%' :: '2' :: e :: rest =>
    if e = 'e' || e = 'E' then '.' :: plainDots rest else '%' :: '2' :: plainDots (e :: rest)
  | c :: rest => c :: plainDots rest
  | [] => []

/-- A drive of a file system: a letter, and a colon or what once stood for it. -/
def drive? : List Char → Option (List Char)
  | [letter, mark] =>
    if letter.isAlpha && (mark = ':' || mark = '|') then some [letter, ':'] else none
  | _ => none

/-- The segments without the last one. A drive stays, whatever follows a backslash after it. -/
def dropSegment (done : List (List Char)) : List (List Char) :=
  match done.getLast? with
  | some last => if (drive? (last.takeWhile (· ≠ '\\'))).isSome then done else done.dropLast
  | none => []

/-- A drive with its colon and what a line end or a tab parts from it. -/
def brokenDrive? (segment : List Char) : Option (List Char × List Char) :=
  match segment.dropWhile isBreak with
  | letter :: rest =>
    match rest.dropWhile isBreak with
    | ':' :: c :: file =>
      if letter.isAlpha && isBreak c && unbroken file ≠ [] then some ([letter, ':'], unbroken file)
      else none
    | _ => none
  | [] => none

/-- The segments that one which is no dots adds to those before it. The first one of a path to a
    file may be a drive. -/
def named (file : Bool) (done : List (List Char)) (segment : List Char) : List (List Char) :=
  if file && done = [] then
    match brokenDrive? segment with
    | some (drive, rest) => [drive, rest]
    | none => [(drive? (unbroken segment)).getD (unbroken segment)]
  else [unbroken segment]

/-- The segments that are left once the dots are resolved, after those already found. After dots
    that end a path there is an empty segment. -/
def resolveDots (file : Bool) (done : List (List Char)) : List (List Char) → List (List Char)
  | [] => done
  | segment :: rest =>
    let closed := fun done : List (List Char) => if rest = [] then done ++ [[]] else done
    match plainDots (unbroken segment) with
    | ['.', '.'] => resolveDots file (closed (dropSegment done)) rest
    | ['.'] => resolveDots file (closed done) rest
    | _ => resolveDots file (done ++ named file done segment) rest

/-- The segments of a path whose first slash was read. -/
def pathSegments (common : Bool) (cs : List Char) : List (List Char) :=
  let segments := splitPath common (cs.takeWhile fun c => !endsPath c)
  (resolveDots false [] segments).map encodeSegment

/-- The segments of a path to a file. Empty ones before the first that is not are dropped. -/
def fileSegments (cs : List Char) : List (List Char) :=
  let segments := splitPath true (cs.takeWhile fun c => !endsPath c)
  match ((resolveDots true [] segments).map encodeSegment).dropWhile (· = []) with
  | [] => [[]]
  | segments => segments

end SqlBatch.Url
