import HomeAutomation.Json.Parser
import HomeAutomation.Text.Utf8

/-!
# JSON in octets

A JSON text travels in UTF-8, UTF-16 or UTF-32. It begins with two ASCII characters, so the zeros
among its first four octets tell which one it is (`Encoding.ofOctets`). `Json.received?` reads a
text that was sent in UTF-8 the way a receiver does who looks at the octets only.
-/

namespace HomeAutomation.Json

open Text

inductive Encoding where
  | utf8
  | utf16 (highFirst : Bool)
  | utf32 (highFirst : Bool)
  deriving DecidableEq, Repr

namespace Encoding

def ofOctets : List UInt8 → Encoding
  | a :: b :: c :: d :: _ =>
    if a = 0 then if b = 0 then .utf32 true else .utf16 true
    else if b = 0 then if c = 0 ∧ d = 0 then .utf32 false else .utf16 false
    else .utf8
  | [a, b] => if a = 0 then .utf16 true else if b = 0 then .utf16 false else .utf8
  | _ => .utf8

/-- Numbers below `radix` put together two by two, if none is left over. -/
def paired? (radix : Nat) (highFirst : Bool) : List Nat → Option (List Nat)
  | [] => some []
  | a :: b :: rest =>
    let unit := if highFirst then a * radix + b else b * radix + a
    (paired? radix highFirst rest).map (unit :: ·)
  | [_] => none

def ofUnits : List Nat → List Char
  | [] => []
  | [u] => [Parser.unitChar u]
  | u :: v :: rest =>
    if 0xD800 ≤ u ∧ u < 0xDC00 ∧ 0xDC00 ≤ v ∧ v < 0xE000 then
      Char.ofNat (0x10000 + (u - 0xD800) * 0x400 + (v - 0xDC00)) :: ofUnits rest
    else Parser.unitChar u :: ofUnits (v :: rest)

/-- The characters of UTF-32 units, if all of them are below the end of the code space. -/
def ofWideUnits? (units : List Nat) : Option (List Char) :=
  if units.all (· < 0x110000) then some (units.map Parser.unitChar) else none

end Encoding

/-- A text without the byte order mark in front of it. -/
def withoutMark (s : String) : String :=
  match s.toList with
  | c :: rest => if c.toNat = 0xFEFF then String.ofList rest else s
  | [] => s

/-- What a receiver reads when the text is sent in UTF-8; nothing if the octets are no text. -/
def received? (s : String) : Option String :=
  let octets := Utf8.encode s.toList
  let units? (highFirst : Bool) : Option (List Nat) :=
    Encoding.paired? 0x100 highFirst (octets.map UInt8.toNat)
  match Encoding.ofOctets octets with
  | .utf8 => some (withoutMark s)
  | .utf16 highFirst => (units? highFirst).map fun units => String.ofList (Encoding.ofUnits units)
  | .utf32 highFirst =>
    (units? highFirst >>= Encoding.paired? 0x10000 highFirst >>= Encoding.ofWideUnits?).map
      String.ofList

end HomeAutomation.Json
