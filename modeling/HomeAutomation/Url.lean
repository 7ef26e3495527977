import HomeAutomation.Text.Blank
import HomeAutomation.Text.Lowercase
import HomeAutomation.Text.Numeral

/-!
# Addresses of a hub

`Url.parse?` takes from an address what a hint about a network failure needs, the scheme and the
host, both in lower case. Controls and spaces in front and line breaks and tabs anywhere are
dropped first. An address is refused when a bracket has no partner, and when a character of the
authority would turn into a separator under compatibility normalisation. Where the authority holds
brackets, even in the name of the user, the host has to be an IPv6 or later address, and brackets
around it may be followed by a port only.
-/

namespace HomeAutomation

open Text

structure Url where
  /-- The scheme in lower case, empty if there is none. -/
  scheme : String
  /-- The host in lower case, without user and port, empty if there is none. -/
  host : String
  deriving DecidableEq, Repr

namespace Url

def splitFirst? (separator : Char) (s : List Char) : Option (List Char × List Char) :=
  if s.contains separator then
    some (s.takeWhile (· != separator), (s.dropWhile (· != separator)).drop 1)
  else none

def isSchemeChar (c : Char) : Bool :=
  c.isAlphanum || c == '+' || c == '-' || c == '.'

def splitScheme (s : List Char) : List Char × List Char :=
  match splitFirst? ':' s with
  | some (scheme, rest) =>
    if scheme.head?.any Char.isAlpha && scheme.all isSchemeChar then
      (scheme.map Char.toLower, rest)
    else ([], s)
  | none => ([], s)

def authority : List Char → List Char
  | '/' :: '/' :: rest => rest.takeWhile fun c => c != '/' && c != '?' && c != '#'
  | _ => []

/-- One part of an IPv4 address: up to three digits, no zero in front, at most 255. -/
def isOctetText (s : List Char) : Bool :=
  !s.isEmpty && s.all Char.isDigit && s.length ≤ 3 && (s.length == 1 || s.head? != some '0') &&
    ofDigits (s.filterMap asciiDigit?) ≤ 255

def isIPv4 (s : List Char) : Bool :=
  let parts := s.splitOn '.'
  parts.length == 4 && parts.all isOctetText

def isHexDigit (c : Char) : Bool :=
  c.isDigit || ('a' ≤ c && c ≤ 'f') || ('A' ≤ c && c ≤ 'F')

def isGroup (s : List Char) : Bool :=
  !s.isEmpty && s.length ≤ 4 && s.all isHexDigit

/-- The groups of an IPv6 address. An IPv4 address at the end counts as two. -/
def groups (s : List Char) : List (List Char) :=
  let parts := s.splitOn ':'
  match parts.getLast? with
  | some last => if isIPv4 last then parts.dropLast ++ [['0'], ['0']] else parts
  | none => parts

/-- The groups on one side of the omitted zeros. `outer` is the group at the end of the address,
which is empty when nothing but the omission stands on that side. -/
def isSide (side : List (List Char)) (outer : Option (List Char)) : Bool :=
  if outer == some [] then side.length == 1 else side.all isGroup

def isAbbreviated (before after : List (List Char)) : Bool :=
  let count (side : List (List Char)) (outer : Option (List Char)) : Nat :=
    if outer == some [] then side.length - 1 else side.length
  after.dropLast.all (· != []) && isSide before before.head? && isSide after after.getLast? &&
    count before before.head? + count after after.getLast? ≤ 7

def isIPv6 (s : List Char) : Bool :=
  let parts := groups s
  let enough := 3 ≤ (s.splitOn ':').length && parts.length ≤ 9
  let inner := (parts.drop 1).dropLast
  if !enough then false
  else
    match inner.findIdx? (· == []) with
    | some i => isAbbreviated (parts.take (i + 1)) (parts.drop (i + 2))
    | none => parts.length == 8 && parts.all isGroup

/-- An IPv6 address, perhaps with a zone after a percent sign. -/
def isZonedIPv6 (s : List Char) : Bool :=
  match splitFirst? '%' s with
  | some (address, zone) => !zone.isEmpty && !zone.contains '%' && !s.contains '/' && isIPv6 address
  | none => !s.contains '/' && isIPv6 s

/-- An address of a later version: a version number in hexadecimal, a point, and more. -/
def isLaterAddress (s : List Char) : Bool :=
  match s with
  | 'v' :: rest =>
    match splitFirst? '.' rest with
    | some (version, address) =>
      !version.isEmpty && version.all isHexDigit && !address.isEmpty && !address.contains '\n'
    | none => false
  | _ => false

def withoutUser (s : List Char) : List Char :=
  (s.reverse.takeWhile (· != '@')).reverse

def bracketed (place : List Char) : List Char :=
  ((place.dropWhile (· != '[')).drop 1).takeWhile (· != ']')

def afterBrackets (place : List Char) : List Char :=
  ((place.dropWhile (· != '[')).dropWhile (· != ']')).drop 1

def hostOf (place : List Char) : List Char :=
  if place.contains '[' then bracketed place else place.takeWhile (· != ':')

/-- Nothing stands before the brackets around a host, and at most a port after them. -/
def isWellBracketed (place : List Char) : Bool :=
  !place.contains '[' ||
    (place.head? == some '[' && ((afterBrackets place).isEmpty ||
      (afterBrackets place).head? == some ':'))

def isBracketable (host : List Char) : Bool :=
  if host.head? = some 'v' then isLaterAddress host else isZonedIPv6 host

/-- An authority without brackets, or with brackets in pairs and a host that may stand in them. -/
def hasGoodBrackets (s : List Char) : Bool :=
  match s.contains '[', s.contains ']' with
  | false, false => true
  | true, true => isWellBracketed (withoutUser s) && isBracketable (hostOf (withoutUser s))
  | _, _ => false

/-- Characters whose compatibility form holds one of `/ ? # @ :`. -/
def separatorLookalikes : List Nat :=
  [0x2047, 0x2048, 0x2049, 0x2100, 0x2101, 0x2105, 0x2106, 0x2A74, 0xFE13, 0xFE16, 0xFE55, 0xFE56,
    0xFE5F, 0xFE6B, 0xFF03, 0xFF0F, 0xFF1A, 0xFF1F, 0xFF20]

def parse? (address : String) : Option Url :=
  let trimmed := address.toList.dropWhile fun c => c.toNat ≤ 0x20
  let s := trimmed.filter fun c => c != '\t' && c != '\r' && c != '\n'
  let (scheme, rest) := splitScheme s
  let place := authority rest
  if !hasGoodBrackets place || place.any (fun c => separatorLookalikes.contains c.toNat) then none
  else some ⟨String.ofList scheme, lower (String.ofList (hostOf (withoutUser place)))⟩

end Url

end HomeAutomation
