import HomeAutomation.Text.CodePoint
import HomeAutomation.Text.Utf8

/-!
# Percent encoding

`Percent.encode` writes a text so that it can stand as one segment of a path: letters, digits and
`_ . - ~` as they are, every other octet of its UTF-8 form as `%` and two hexadecimal digits.
`Percent.decode` reads such a text back, and any other text too: a `%` that two hexadecimal digits
do not follow stands for itself.
-/

namespace HomeAutomation.Text.Percent

def isUnreserved (n : Nat) : Bool :=
  (0x30 ≤ n && n ≤ 0x39) || (0x41 ≤ n && n ≤ 0x5A) || (0x61 ≤ n && n ≤ 0x7A) ||
    n == 0x5F || n == 0x2E || n == 0x2D || n == 0x7E

def hexDigit (n : Nat) : Char :=
  Char.ofNat (if n < 10 then 0x30 + n else 0x37 + n)

def hexValue? (c : Char) : Option Nat :=
  let n := c.toNat
  if 0x30 ≤ n ∧ n ≤ 0x39 then some (n - 0x30)
  else if 0x41 ≤ n ∧ n ≤ 0x46 then some (n - 0x37)
  else if 0x61 ≤ n ∧ n ≤ 0x66 then some (n - 0x57)
  else none

def encodeOctet (b : UInt8) : List Char :=
  if isUnreserved b.toNat then [Char.ofNat b.toNat]
  else ['%', hexDigit (b.toNat / 16), hexDigit (b.toNat % 16)]

def encodeChars (s : List Char) : List Char :=
  (Utf8.encode s).flatMap encodeOctet

def encode (s : String) : String :=
  String.ofList (encodeChars s.toList)

/-- Any code points as one path segment; a surrogate has no octets and so no encoding. -/
def encode? (s : WideText) : Option String :=
  s.text?.map encode

@[simp] theorem encode?_ofString (s : String) : encode? s = some (encode s) := by
  rw [encode?, WideText.text?_ofString, Option.map_some]

/-- The octets that an encoded text stands for. -/
def octets : List Char → List UInt8
  | [] => []
  | '%' :: a :: b :: rest =>
    match hexValue? a, hexValue? b with
    | some x, some y => Utf8.octet (16 * x + y) :: octets rest
    | _, _ => Utf8.encodeChar '%' ++ octets (a :: b :: rest)
  | c :: rest => Utf8.encodeChar c ++ octets rest

def decodeChars (s : List Char) : List Char :=
  Utf8.decode (octets s)

def decode (s : String) : String :=
  String.ofList (decodeChars s.toList)

end HomeAutomation.Text.Percent
