import SqlBatch.Url.Host
import SqlBatch.Url.Path
/- Addresses: a scheme, a host and a path, of which only what a connection needs is
   kept. Blanks and controls around a text are no part of it, and neither are tabs
   and line ends in it.
   Correspondence:
     `Url::parse`                 ↔ `Url.parse`
     the first of `path_segments` ↔ `Url.firstSegment?` -/
namespace SqlBatch

/-- An address. -/
structure Url where
  scheme : String
  /-- A host is named. -/
  hasHost : Bool
  /-- The segments of the path, if it begins with a slash. -/
  segments : Option (List String)
  /-- What follows the question mark. -/
  query : Option (List Char)

namespace Url

/-- The characters between the blanks and controls around an address. -/
def bare (cs : List Char) : List Char :=
  let outside := fun c : Char => decide (c.toNat ≤ 0x20)
  ((cs.dropWhile outside).reverse.dropWhile outside).reverse

/-- The scheme in lower case, and what follows its colon. -/
def splitScheme? (cs : List Char) : Option (String × List Char) :=
  let isSchemeChar := fun c : Char => c.isAlphanum || c = '+' || c = '-' || c = '.'
  match cs.head?, cs.dropWhile isSchemeChar with
  | some first, ':' :: rest =>
    if first.isAlpha then
      some (String.ofList ((cs.takeWhile isSchemeChar).map Char.toLower), rest)
    else none
  | _, _ => none

/-- What is between the question mark and the number sign. -/
def queryOf (cs : List Char) : Option (List Char) :=
  match cs.dropWhile fun c => !endsPath c with
  | '?' :: rest => some (rest.takeWhile (· ≠ '#'))
  | _ => none

/-- The address of a path. -/
def ofPath (scheme : String) (hasHost : Bool) (path : Option (List (List Char)))
    (cs : List Char) : Url :=
  ⟨scheme, hasHost, path.map fun p => p.map String.ofList, queryOf cs⟩

/-- The path after a host. Under the common schemes there always is one. -/
def ofPathStart (scheme : String) (common hasHost : Bool) (cs : List Char) : Url :=
  match cs with
  | c :: rest =>
    if isSlash common c then ofPath scheme hasHost (some (pathSegments common rest)) cs
    else if !common && endsPath c then ofPath scheme hasHost none cs
    else ofPath scheme hasHost (some (pathSegments common cs)) cs
  | [] => ofPath scheme hasHost (if common then some [[]] else none) cs

/-- The characters that end what names a host, credentials included. -/
def endsAuthority (common : Bool) (c : Char) : Bool :=
  isSlash common c || endsPath c

/-- The host after its credentials, and what follows it: a colon within brackets is part of it. -/
def splitHost (common : Bool) : Bool → List Char → List Char × List Char
  | _, [] => ([], [])
  | bracket, c :: cs =>
    if (c = ':' && !bracket) || endsAuthority common c then ([], c :: cs)
    else
      let (host, rest) := splitHost common (c = '[' || (bracket && c ≠ ']')) cs
      (c :: host, rest)

/-- The characters after a port, which has to be a number of 16 bits up to what may follow. -/
def afterPort (cs : List Char) : Except UrlError (List Char) :=
  let digits := cs.takeWhile Decimal.isDigit
  let rest := cs.dropWhile Decimal.isDigit
  if 65535 < Decimal.natOf digits then .error .invalidPort
  else
    match rest with
    | [] => .ok []
    | c :: _ => if endsAuthority true c then .ok rest else .error .invalidPort

/-- Whether there are credentials before a host, and the characters of the host. Credentials end
    with the last `@`; nothing at all before it is no fault only at the end of the text. -/
def afterCredentials (common : Bool) (cs : List Char) : Except UrlError (Bool × List Char) :=
  let authority := cs.takeWhile fun c => !endsAuthority common c
  let rest := cs.dropWhile fun c => !endsAuthority common c
  let host := (authority.reverse.takeWhile (· ≠ '@')).reverse
  if authority.contains '@' then
    let credentials := authority.take (authority.length - host.length - 1)
    if credentials = [] then
      if host = [] && rest ≠ [] then .error .emptyHost else .ok (false, host ++ rest)
    else .ok (credentials ≠ [':'], host ++ rest)
  else .ok (false, cs)

/-- The address of what follows two slashes. -/
def ofAuthority (scheme : String) (common : Bool) (cs : List Char) : Except UrlError Url := do
  let (credentials, cs) ← afterCredentials common cs
  let (host, rest) := splitHost common false cs
  if common && host = [] then throw .emptyHost
  if common then discard (hostOf host) else checkOpaque host
  match rest with
  | ':' :: number =>
    if host = [] then throw .emptyHost
    let rest ← afterPort number
    return ofPathStart scheme common true rest
  | _ =>
    if host = [] && credentials then throw .emptyHost
    return ofPathStart scheme common (host ≠ []) rest

/-- The characters after a slash, if there is one. -/
def afterSlash? (cs : List Char) : Option (List Char) :=
  match cs.dropWhile isBreak with
  | c :: rest => if isSlash true c then some rest else none
  | [] => none

/-- The address of a path to a file, in which tabs and line ends are left. -/
def ofFilePath (hasHost : Bool) (cs : List Char) : Url :=
  ofPath "file" hasHost (some (fileSegments cs)) (unbroken cs)

/-- The address of a file after two slashes. The host may be missing, or be a drive and so begin
    the path. Where it is this one, the slash after it begins a segment too. -/
def ofFileHost (cs : List Char) : Except UrlError Url := do
  let host := unbroken (cs.takeWhile fun c => !endsAuthority true c)
  let after := cs.dropWhile fun c => !endsAuthority true c
  if (drive? host).isSome then return ofFilePath false cs
  if host = [] then return ofFilePath false after
  if (← hostOf host) = "localhost".toList then return ofFilePath false after
  return ofFilePath true ((afterSlash? after).getD after)

/-- The address of a file. -/
def ofFile (cs : List Char) : Except UrlError Url :=
  match afterSlash? cs with
  | none => .ok (ofFilePath false cs)
  | some rest =>
    match afterSlash? rest with
    | none => .ok (ofFilePath false rest)
    | some rest => ofFileHost rest

/-- The schemes that always have a host. -/
def commonSchemes : List String := ["http", "https", "ws", "wss", "ftp"]

/-- The address that a text is. -/
def parse (text : String) : Except UrlError Url :=
  let cs := bare text.toList
  match splitScheme? (unbroken cs) with
  | none => .error .relative
  | some (scheme, rest) =>
    if scheme = "file" then ofFile ((cs.dropWhile (· ≠ ':')).drop 1)
    else if commonSchemes.contains scheme then
      ofAuthority scheme true (rest.dropWhile (isSlash true))
    else
      match rest with
      | '/' :: '/' :: rest => ofAuthority scheme false rest
      | '/' :: rest => .ok (ofPath scheme false (some (pathSegments false rest)) rest)
      | _ => .ok (ofPath scheme false none rest)

/-- The first segment of the path, unless it is empty. -/
def firstSegment? (u : Url) : Option String :=
  match u.segments with
  | some (s :: _) => if s = "" then none else some s
  | _ => none

end Url

end SqlBatch
