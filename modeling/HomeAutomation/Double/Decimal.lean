import HomeAutomation.Text.Numeral

/-!
# Decimal numerals for doubles

A decimal numeral is kept exactly, as `± digits · 10^exponent`, until `Decimal.toDouble` rounds it
to the nearest double; a value beyond the largest double becomes an infinity. `Decimal.read?` has
the usual grammar: a sign, digits with at most one point, an exponent, or one of the words `inf`,
`infinity` and `nan` in any case.

Free text comes in two customs, which differ in what may stand between and around the characters
of the numeral: `readLoose?` and `readSetting?`.
-/

namespace HomeAutomation

open Text

inductive Decimal where
  | undefined
  | infinite (negative : Bool)
  /-- The number `± digits · 10^exponent`. -/
  | finite (negative : Bool) (digits : Nat) (exponent : Int)
  deriving DecidableEq, Repr

namespace Decimal

def infinity : Float := Float.ofBits 0x7FF0000000000000

def notANumber : Float := Float.ofBits 0x7FF8000000000000

/-- The number `digits · 10^exponent`, rounded. Numbers that are far out of range are decided by
their size alone. -/
def magnitude (digits : Nat) (exponent : Int) : Float :=
  let size := (natDigits digits).length + exponent
  if digits = 0 ∨ size < -400 then 0.0
  else if 400 < size then infinity
  else Float.ofScientific digits (exponent < 0) exponent.natAbs

def toDouble : Decimal → Float
  | .undefined => notANumber
  | .infinite negative => if negative then -infinity else infinity
  | .finite negative digits exponent =>
    if negative then -magnitude digits exponent else magnitude digits exponent

def digitsValue (s : List Char) : Nat :=
  ofDigits (s.filterMap asciiDigit?)

def readExponent? : List Char → Option Int
  | [] => some 0
  | c :: rest =>
    if c = 'e' ∨ c = 'E' then
      let (negative, digits) := splitSign rest
      if digits.isEmpty || !digits.all Char.isDigit then none
      else some (if negative then -(digitsValue digits : Int) else digitsValue digits)
    else none

def splitFraction : List Char → List Char × List Char
  | '.' :: rest => (rest.takeWhile Char.isDigit, rest.dropWhile Char.isDigit)
  | rest => ([], rest)

def readMagnitude? (negative : Bool) (s : List Char) : Option Decimal :=
  let word := s.map Char.toLower
  if word = "inf".toList ∨ word = "infinity".toList then some (.infinite negative)
  else if word = "nan".toList then some .undefined
  else
    let whole := s.takeWhile Char.isDigit
    let (fraction, rest) := splitFraction (s.dropWhile Char.isDigit)
    if whole.isEmpty && fraction.isEmpty then none
    else
      (readExponent? rest).map fun exponent =>
        .finite negative (digitsValue (whole ++ fraction)) (exponent - fraction.length)

def read? (s : List Char) : Option Decimal :=
  let (negative, rest) := splitSign s
  readMagnitude? negative rest

/-- Takes out underscores that stand alone and inside the text. -/
def withoutUnderscores? (s : List Char) : Option (List Char) :=
  if s.head? = some '_' ∨ s.getLast? = some '_' then none
  else if (s.zip (s.drop 1)).contains ('_', '_') then none
  else if s.contains '_' then some (s.filter (· != '_'))
  else none

/-- Reads a number from the text of a draft: white space around the numeral, or single underscores
inside it, but not both. -/
def readLoose? (s : String) : Option Decimal :=
  let cs := s.toList
  read? (trim isWhiteSpace cs) <|> (withoutUnderscores? cs).bind read?

/-- Takes out underscores that stand between two digits; there may be no others. -/
def withoutGrouping? (afterDigit : Bool) : List Char → Option (List Char)
  | [] => some []
  | c :: rest =>
    if c = '_' then
      if afterDigit && (rest.head?.any Char.isDigit) then withoutGrouping? false rest else none
    else (withoutGrouping? c.isDigit rest).map (c :: ·)

/-- Reads a number from a setting: blanks around the numeral, digits of any script, and single
underscores between digits. -/
def readSetting? (s : String) : Option Decimal := do
  read? (← withoutGrouping? false (← numeral? s.toList))

end Decimal

end HomeAutomation
