/-!
# UTF-8

`encodeChar` writes a character as one to four octets. `decode` reads octets back and never fails:
octets that begin no character, and a character that breaks off, are read as the replacement
character, one for each longest piece that could still have become a character.

The reader carries along what it still expects, so it is one pass over the octets.
-/

namespace HomeAutomation.Text.Utf8

def octet (n : Nat) : UInt8 := UInt8.ofNat n

def encodeChar (c : Char) : List UInt8 :=
  let n := c.toNat
  if n < 0x80 then [octet n]
  else if n < 0x800 then [octet (0xC0 + n / 64), octet (0x80 + n % 64)]
  else if n < 0x10000 then
    [octet (0xE0 + n / 4096), octet (0x80 + n / 64 % 64), octet (0x80 + n % 64)]
  else
    [octet (0xF0 + n / 262144), octet (0x80 + n / 4096 % 64), octet (0x80 + n / 64 % 64),
      octet (0x80 + n % 64)]

def encode (s : List Char) : List UInt8 :=
  s.flatMap encodeChar

/-- A character of which the first octets are read: how many octets are owed, the range of the next
one, and the value so far. -/
structure Pending where
  more : Nat
  low : Nat
  high : Nat
  value : Nat

/-- What an octet means between characters. -/
inductive Lead where
  | whole (c : Char)
  | begins (p : Pending)
  | stray

def lead (b : Nat) : Lead :=
  if b < 0x80 then .whole (Char.ofNat b)
  else if b < 0xC2 then .stray
  else if b < 0xE0 then .begins ⟨0, 0x80, 0xBF, b - 0xC0⟩
  else if b = 0xE0 then .begins ⟨1, 0xA0, 0xBF, 0⟩
  else if b = 0xED then .begins ⟨1, 0x80, 0x9F, 0xD⟩
  else if b < 0xF0 then .begins ⟨1, 0x80, 0xBF, b - 0xE0⟩
  else if b = 0xF0 then .begins ⟨2, 0x90, 0xBF, 0⟩
  else if b < 0xF4 then .begins ⟨2, 0x80, 0xBF, b - 0xF0⟩
  else if b = 0xF4 then .begins ⟨2, 0x80, 0x8F, 4⟩
  else .stray

def replacement : Char := Char.ofNat 0xFFFD

mutual

def decode : List UInt8 → List Char
  | [] => []
  | b :: rest =>
    match lead b.toNat with
    | .whole c => c :: decode rest
    | .begins p => decodeAfter p rest
    | .stray => replacement :: decode rest

def decodeAfter (p : Pending) : List UInt8 → List Char
  | [] => [replacement]
  | b :: rest =>
    if p.low ≤ b.toNat ∧ b.toNat ≤ p.high then
      let value := p.value * 64 + (b.toNat - 0x80)
      match p.more with
      | 0 => Char.ofNat value :: decode rest
      | more + 1 => decodeAfter ⟨more, 0x80, 0xBF, value⟩ rest
    else
      match lead b.toNat with
      | .whole c => replacement :: c :: decode rest
      | .begins q => replacement :: decodeAfter q rest
      | .stray => replacement :: replacement :: decode rest

end

end HomeAutomation.Text.Utf8
