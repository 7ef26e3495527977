import HomeAutomation.Double.Decimal
import HomeAutomation.Json.Basic

/-!
# Reading JSON

`Json.parse` reads a JSON text. Besides the standard it accepts the numbers `NaN`, `Infinity` and
`-Infinity`; of values under one name the last counts, in the place of the first. A text that is
not JSON is refused with the position at which reading stopped. Whole numbers are read up to
`Text.maxDigits` digits.

Texts inside a value are well-formed Unicode: an escape that is half of a surrogate pair, alone, is
read as the replacement character U+FFFD (`Parser.unitChar`). Code points that are no characters are
kept only in the ids that callers give (`Text.WideText`).

The readers work on the rest of the text and return what they leave. A fault is noted by how much
was left, from which the position follows. The readers of nested values take a bound on the number
of steps, and the length of the text is one.
-/

namespace HomeAutomation.Json

open Text

inductive ParseError where
  | malformed (position : Nat)
  | oversized
  deriving DecidableEq, Repr

namespace Parser

/-- What stops a reader: a fault with so many characters left, or an oversized number. -/
inductive Fault where
  | malformed (left : Nat)
  | oversized

def isBlank (c : Char) : Bool :=
  c == ' ' || c == '\t' || c == '\n' || c == '\r'

def skipBlanks (s : List Char) : List Char :=
  s.dropWhile isBlank

def refuse {α : Type} (s : List Char) : Except Fault α :=
  .error (.malformed s.length)

def hexValue? (c : Char) : Option Nat :=
  if '0' ≤ c ∧ c ≤ '9' then some (c.toNat - '0'.toNat)
  else if 'a' ≤ c ∧ c ≤ 'f' then some (c.toNat - 'a'.toNat + 10)
  else if 'A' ≤ c ∧ c ≤ 'F' then some (c.toNat - 'A'.toNat + 10)
  else none

/-- Four hexadecimal digits that are not the end of the text. -/
def hexQuad? : List Char → Option (Nat × List Char)
  | a :: b :: c :: d :: e :: rest => do
    let w ← hexValue? a
    let x ← hexValue? b
    let y ← hexValue? c
    let z ← hexValue? d
    return (w * 4096 + x * 256 + y * 16 + z, e :: rest)
  | _ => none

/-- The character of a code unit. Half of a pair alone is not kept. -/
def unitChar (unit : Nat) : Char :=
  if 0xD800 ≤ unit ∧ unit < 0xE000 then Char.ofNat 0xFFFD else Char.ofNat unit

/-- The character of a code unit that was read, together with the second half of its pair if that
follows. -/
def pairedChar (unit : Nat) (s : List Char) : Except Fault (Char × List Char) :=
  match s with
  | '\\' :: 'u' :: rest =>
    if 0xD800 ≤ unit ∧ unit < 0xDC00 ∧ 4 < rest.length then
      match hexQuad? rest with
      | some (second, rest') =>
        if 0xDC00 ≤ second ∧ second < 0xE000 then
          .ok (Char.ofNat (0x10000 + (unit - 0xD800) * 0x400 + (second - 0xDC00)), rest')
        else .ok (unitChar unit, s)
      | none => refuse ('u' :: rest)
    else .ok (unitChar unit, s)
  | _ => .ok (unitChar unit, s)

def escape (opening : Nat) (s : List Char) : Except Fault (Char × List Char) :=
  match s with
  | [] => .error (.malformed opening)
  | c :: rest =>
    match c with
    | '"' => .ok ('"', rest)
    | '\\' => .ok ('\\', rest)
    | '/' => .ok ('/', rest)
    | 'b' => .ok (Char.ofNat 8, rest)
    | 'f' => .ok (Char.ofNat 12, rest)
    | 'n' => .ok ('\n', rest)
    | 'r' => .ok ('\r', rest)
    | 't' => .ok ('\t', rest)
    | 'u' =>
      match hexQuad? rest with
      | some (unit, rest') => pairedChar unit rest'
      | none => refuse s
    | _ => .error (.malformed (s.length + 1))

/-- The characters up to the closing quote. `opening` is what was left at the opening quote. -/
def stringBody (opening : Nat) : Nat → List Char → Except Fault (List Char × List Char)
  | 0, _ => .error (.malformed opening)
  | _ + 1, [] => .error (.malformed opening)
  | steps + 1, c :: rest =>
    if c = '"' then .ok ([], rest)
    else if c = '\\' then do
      let (d, rest) ← escape opening rest
      let (body, rest) ← stringBody opening steps rest
      return (d :: body, rest)
    else if c.toNat < 0x20 then refuse (c :: rest)
    else do
      let (body, rest) ← stringBody opening steps rest
      return (c :: body, rest)

def string (s : List Char) : Except Fault (String × List Char) := do
  let (body, rest) ← stringBody (s.length + 1) (s.length + 1) s
  return (String.ofList body, rest)

def fraction (s : List Char) : List Char × List Char :=
  match s with
  | '.' :: d :: rest =>
    if d.isDigit then (d :: rest.takeWhile Char.isDigit, rest.dropWhile Char.isDigit) else ([], s)
  | _ => ([], s)

def exponent? (s : List Char) : Option Int × List Char :=
  match s with
  | c :: rest =>
    if c = 'e' ∨ c = 'E' then
      let (negative, digits) := splitSign rest
      let row := digits.takeWhile Char.isDigit
      if row.isEmpty then (none, s)
      else
        let n : Int := Decimal.digitsValue row
        (some (if negative then -n else n), digits.dropWhile Char.isDigit)
    else (none, s)
  | [] => (none, s)

def wholePart (s : List Char) : List Char × List Char :=
  match s with
  | '0' :: rest => (['0'], rest)
  | _ => (s.takeWhile Char.isDigit, s.dropWhile Char.isDigit)

def number (s : List Char) : Except Fault (Json × List Char) :=
  let (negative, unsigned) :=
    match s with
    | '-' :: rest => (true, rest)
    | _ => (false, s)
  let (whole, rest) := wholePart unsigned
  if whole.isEmpty then refuse s
  else
    let (places, rest) := fraction rest
    let (exponent, rest) := exponent? rest
    if places.isEmpty && exponent.isNone then
      if maxDigits < whole.length then .error .oversized
      else
        let n : Int := Decimal.digitsValue whole
        .ok (.int (if negative then -n else n), rest)
    else
      let digits := Decimal.digitsValue (whole ++ places)
      let scale := exponent.getD 0 - places.length
      .ok (.double (Decimal.finite negative digits scale).toDouble, rest)

/-- The values with a name of their own. -/
def words : List (List Char × Json) :=
  [("null".toList, .null), ("true".toList, .bool true), ("false".toList, .bool false),
    ("NaN".toList, .double Decimal.notANumber), ("Infinity".toList, .double Decimal.infinity),
    ("-Infinity".toList, .double (-Decimal.infinity))]

def scalar (s : List Char) : Except Fault (Json × List Char) :=
  match words.find? fun (word, _) => word.isPrefixOf s with
  | some (word, v) => .ok (v, s.drop word.length)
  | none => number s

mutual

def value : Nat → List Char → Except Fault (Json × List Char)
  | 0, s => refuse s
  | steps + 1, s =>
    match s with
    | '"' :: rest => do
      let (text, rest) ← string rest
      return (.str text, rest)
    | '[' :: rest =>
      match skipBlanks rest with
      | ']' :: rest => .ok (.arr [], rest)
      | rest => do
        let (items, rest) ← items steps rest
        return (.arr items, rest)
    | '{' :: rest =>
      match skipBlanks rest with
      | '}' :: rest => .ok (.obj [], rest)
      | rest => do
        let (fields, rest) ← members steps [] rest
        return (.obj fields, rest)
    | _ => scalar s

def items : Nat → List Char → Except Fault (List Json × List Char)
  | 0, s => refuse s
  | steps + 1, s => do
    let (v, rest) ← value steps s
    match skipBlanks rest with
    | ']' :: rest => return ([v], rest)
    | ',' :: rest => do
      let (others, rest) ← items steps (skipBlanks rest)
      return (v :: others, rest)
    | rest => refuse rest

def members : Nat → Fields → List Char → Except Fault (Fields × List Char)
  | 0, _, s => refuse s
  | steps + 1, fields, s =>
    match s with
    | '"' :: rest => do
      let (name, rest) ← string rest
      match skipBlanks rest with
      | ':' :: rest => do
        let (v, rest) ← value steps (skipBlanks rest)
        let fields := fields.insert name v
        match skipBlanks rest with
        | '}' :: rest => return (fields, rest)
        | ',' :: rest => members steps fields (skipBlanks rest)
        | rest => refuse rest
      | rest => refuse rest
    | _ => refuse s

end

def document (s : List Char) : Except Fault Json := do
  let (v, rest) ← value (2 * s.length + 1) (skipBlanks s)
  match skipBlanks rest with
  | [] => return v
  | rest => refuse rest

end Parser

def parse (s : String) : Except ParseError Json :=
  let cs := s.toList
  match Parser.document cs with
  | .ok v => .ok v
  | .error (.malformed left) => .error (.malformed (cs.length - left))
  | .error .oversized => .error .oversized

def parse? (s : String) : Option Json :=
  (parse s).toOption

end HomeAutomation.Json
