import HomeAutomation.Text.Blank
import HomeAutomation.Text.DecimalDigit

/-!
# Whole numbers written by people

`readInt?` reads a whole number from free text: blanks around it, a sign, decimal digits of any
script, and single underscores between digits. A number of more than `maxDigits` digits is not
read. `twoDigits` is the other direction for clock times: at least two places, padded with zeros
after the sign.
-/

namespace HomeAutomation.Text

/-- The longest whole number that is read or written, in digits. -/
def maxDigits : Nat := 4300

def isNumeralBlank (c : Char) : Bool :=
  (0x09 ≤ c.toNat && c.toNat ≤ 0x0D) || c == ' '

/-- An ASCII character stands for itself, a blank beyond ASCII for a space and a digit of any
script for the ASCII digit. There is nothing else in a numeral. -/
def numeralChar? (c : Char) : Option Char :=
  if c.toNat < 0x7F then some c
  else if isBlank c then some ' '
  else (decimalDigit? c).map Nat.digitChar

def numeral? (s : List Char) : Option (List Char) :=
  (s.mapM numeralChar?).map (trim isNumeralBlank)

/-- The digits of a text in which single underscores may stand between two digits. -/
def groupedDigits? (afterDigit : Bool) : List Char → Option (List Nat)
  | [] => if afterDigit then some [] else none
  | c :: rest =>
    if c = '_' then
      if afterDigit then groupedDigits? false rest else none
    else
      match asciiDigit? c with
      | some d => (groupedDigits? true rest).map (d :: ·)
      | none => none

def ofDigits (digits : List Nat) : Nat :=
  digits.foldl (fun n d => 10 * n + d) 0

def readNat? (s : List Char) : Option Nat :=
  match groupedDigits? false s with
  | some digits => if digits.length ≤ maxDigits then some (ofDigits digits) else none
  | none => none

def splitSign : List Char → Bool × List Char
  | '-' :: rest => (true, rest)
  | '+' :: rest => (false, rest)
  | s => (false, s)

def readInt? (s : List Char) : Option Int := do
  let (negative, digits) := splitSign (← numeral? s)
  let n ← readNat? digits
  return if negative then -(n : Int) else n

def natDigits (n : Nat) : List Char :=
  Nat.toDigits 10 n

/-- A whole number in at least two places, the sign among them. -/
def twoDigits (n : Int) : List Char :=
  let digits := natDigits n.natAbs
  if n < 0 then '-' :: digits else List.replicate (2 - digits.length) '0' ++ digits

end HomeAutomation.Text
