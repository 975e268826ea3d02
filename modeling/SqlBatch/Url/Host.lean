import SqlBatch.Decimal.Reading
import SqlBatch.Domain.Basic
import SqlBatch.Url.Percent
/- The hosts of addresses. An address of a common scheme names a domain or an
   IPv4 address; of any other scheme the host is taken as it is. Either may be an
   IPv6 address in brackets. -/
namespace SqlBatch

/-- Why a text is no address. -/
inductive UrlError where
  | relative
  | invalidPort
  | emptyHost
  | invalidIpv6
  | invalidIpv4
  | invalidDomainCharacter
  | invalidDomainName
  deriving DecidableEq, Repr

/-- The fault in words. -/
def UrlError.message : UrlError → String
  | .relative => "relative URL without a base"
  | .invalidPort => "invalid port number"
  | .emptyHost => "empty host"
  | .invalidIpv6 => "invalid IPv6 address"
  | .invalidIpv4 => "invalid IPv4 address"
  | .invalidDomainCharacter => "invalid domain character"
  | .invalidDomainName => "invalid international domain name"

namespace Url

/-- A decimal number up to 255 without leading zeros. -/
def isOctet (ds : List Char) : Bool :=
  ds ≠ [] && ds.all Decimal.isDigit && (ds.length = 1 || ds.head? ≠ some '0')
    && Decimal.natOf ds ≤ 255

/-- The groups of an IPv6 address after `count` groups, `compressed` if a run of zeros was left
    out before. The last two groups may be written as an IPv4 address. -/
def isIpv6From : Nat → Nat → Bool → List Char → Bool
  | _, count, compressed, [] => compressed || count = 8
  | 0, _, _, _ => false
  | fuel + 1, count, compressed, cs =>
    if count = 8 then false
    else if cs.head? = some ':' then !compressed && isIpv6From fuel (count + 1) true (cs.drop 1)
    else
      let digits := (cs.take 4).takeWhile fun c => (Text.hexValue? c).isSome
      match cs.drop digits.length with
      | [] => isIpv6From fuel (count + 1) compressed []
      | '.' :: _ =>
        let octets := Text.splitOn '.' cs
        digits ≠ [] && count ≤ 6 && octets.length = 4 && octets.all isOctet
          && (compressed || count = 6)
      | ':' :: rest => rest ≠ [] && isIpv6From fuel (count + 1) compressed rest
      | _ => false

/-- The text is an IPv6 address. -/
def isIpv6 (cs : List Char) : Bool :=
  match cs with
  | ':' :: ':' :: rest => isIpv6From (cs.length + 1) 1 true rest
  | ':' :: _ | [] => false
  | _ => 2 ≤ cs.length && isIpv6From (cs.length + 1) 0 false cs

/-- A host in brackets, which has to be an IPv6 address. -/
def bracketed (cs : List Char) : Except UrlError Unit :=
  if cs.getLast? = some ']' && isIpv6 (cs.drop 1).dropLast then .ok () else .error .invalidIpv6

/-- The characters that no host of a scheme of its own can hold. -/
def forbiddenInHost : List Char :=
  ['\x00', '\t', '\n', '\r', ' ', '#', '/', ':', '<', '>', '?', '@', '[', '\\', ']', '^', '|']

/-- A host that is taken as it is. -/
def checkOpaque (cs : List Char) : Except UrlError Unit :=
  if cs.head? = some '[' then bracketed cs
  else if cs.any forbiddenInHost.contains then .error .invalidDomainCharacter
  else .ok ()

/-- A part of an IPv4 address: decimal, octal after `0` or hexadecimal after `0x`, the last of
    which may stand alone for zero. -/
def ipv4Part? (cs : List Char) : Option Nat :=
  match cs with
  | [] => none
  | '0' :: 'x' :: ds | '0' :: 'X' :: ds => Text.natOfHex? (String.ofList ds)
  | '0' :: d :: ds =>
    if (d :: ds).all fun c => '0' ≤ c && c ≤ '7' then
      some ((d :: ds).foldl (fun n c => 8 * n + (c.toNat - 48)) 0)
    else none
  | ds => if ds.all Decimal.isDigit then some (Decimal.natOf ds) else none

/-- The parts of a domain, without the empty one after a point that ends it. -/
def labels (cs : List Char) : List (List Char) :=
  let parts := Text.splitOn '.' cs
  if 1 < parts.length && parts.getLast? = some [] then parts.dropLast else parts

/-- The domain ends in a number and so has to be an IPv4 address. -/
def endsInNumber (cs : List Char) : Bool :=
  match (labels cs).getLast? with
  | some last => last ≠ [] && (last.all Decimal.isDigit || (ipv4Part? last).isSome)
  | none => false

/-- The text is an IPv4 address of up to four parts, the last of which fills what is left. -/
def isIpv4 (cs : List Char) : Bool :=
  let parts := labels cs
  match parts.mapM ipv4Part? with
  | none => false
  | some numbers =>
    match numbers.getLast? with
    | none => false
    | some last =>
      numbers.length ≤ 4 && numbers.dropLast.all (· ≤ 255)
        && last < 1 <<< (8 * (5 - numbers.length))

/-- The domain or the IPv4 address that a host is, as it is compared. -/
def domainOf (cs : List Char) : Except UrlError (List Char) :=
  let decoded := Text.ofUtf8? (decode (Text.utf8 (String.ofList cs)))
  match decoded.bind fun text => Domain.ofChars? text.toList with
  | none => .error .invalidDomainName
  | some domain =>
    if domain = [] then .error .emptyHost
    else if endsInNumber domain && !isIpv4 domain then .error .invalidIpv4
    else .ok domain

/-- A host of a common scheme, as it is compared. -/
def hostOf (cs : List Char) : Except UrlError (List Char) :=
  if cs.head? = some '[' then (bracketed cs).map fun _ => cs else domainOf cs

end Url

end SqlBatch
