/-!
# Plain scalars that are not texts

A scalar without quotes is read as a truth value, a number, a date or `null` when it looks like
one. `isImplicit` says which plain scalars a reader would not take for texts; such texts need
quotes.

The recognisers walk over the characters from left to right; each takes what it accepts and hands
on the rest.
-/

namespace HomeAutomation.Yaml

def isGroupedDigit (c : Char) : Bool :=
  c.isDigit || c == '_'

def afterSign : List Char → List Char
  | '-' :: rest => rest
  | '+' :: rest => rest
  | s => s

/-- The characters after one to `most` digits that are not followed by another digit, if there are
at least `least`. -/
def afterDigits? (least most : Nat) (s : List Char) : Option (List Char) :=
  let count := (s.takeWhile Char.isDigit).length
  if least ≤ count ∧ count ≤ most then some (s.dropWhile Char.isDigit) else none

def after? (c : Char) : List Char → Option (List Char)
  | d :: rest => if d = c then some rest else none
  | [] => none

def isTruthWord (s : List Char) : Bool :=
  ["yes", "Yes", "YES", "no", "No", "NO", "true", "True", "TRUE", "false", "False", "FALSE", "on",
    "On", "ON", "off", "Off", "OFF"].any (·.toList == s)

/-- A word for `null`; the empty text is one. -/
def isNullWord (s : List Char) : Bool :=
  ["", "~", "null", "Null", "NULL"].any (·.toList == s)

/-- The sign of a merge, a default value, a tag, an anchor or an alias. -/
def isSpecialMark (s : List Char) : Bool :=
  ["<<", "=", "!", "&", "*"].any (·.toList == s)

/-- A group of a number to the base sixty after the first: one digit, or two of which the first is
less than six. -/
def isSixtieth : List Char → Bool
  | [a] => a.isDigit
  | [a, b] => '0' ≤ a && a ≤ '5' && b.isDigit
  | _ => false

def areSixtieths (groups : List (List Char)) : Bool :=
  !groups.isEmpty && groups.all isSixtieth

def isUnsignedWhole (s : List Char) : Bool :=
  match s with
  | '0' :: 'b' :: rest => !rest.isEmpty && rest.all fun c => c == '0' || c == '1' || c == '_'
  | '0' :: 'x' :: rest =>
    !rest.isEmpty &&
      rest.all fun c => isGroupedDigit c || ('a' ≤ c && c ≤ 'f') || ('A' ≤ c && c ≤ 'F')
  | '0' :: rest => rest.all fun c => ('0' ≤ c && c ≤ '7') || c == '_'
  | c :: _ =>
    c.isDigit &&
      match s.splitOn ':' with
      | [whole] => whole.all isGroupedDigit
      | whole :: groups => whole.all isGroupedDigit && areSixtieths groups
      | [] => false
  | [] => false

def isWhole (s : List Char) : Bool :=
  isUnsignedWhole (afterSign s)

def isExponentEnd (s : List Char) : Bool :=
  match s with
  | [] => true
  | mark :: sign :: digits =>
    (mark == 'e' || mark == 'E') && (sign == '-' || sign == '+') && !digits.isEmpty &&
      digits.all Char.isDigit
  | _ => false

/-- Digits, a point, more digits and perhaps an exponent. -/
def isPointed (s : List Char) : Bool :=
  s.head?.any Char.isDigit &&
    match s.dropWhile isGroupedDigit with
    | '.' :: rest => isExponentEnd (rest.dropWhile isGroupedDigit)
    | _ => false

def isPointFirst (s : List Char) : Bool :=
  match s with
  | '.' :: rest => rest.head?.any Char.isDigit && isExponentEnd (rest.dropWhile isGroupedDigit)
  | _ => false

def isPointedSixtieth (s : List Char) : Bool :=
  let before := s.takeWhile (· != '.')
  let after := s.dropWhile (· != '.')
  s.head?.any Char.isDigit && !after.isEmpty && (after.drop 1).all isGroupedDigit &&
    match before.splitOn ':' with
    | whole :: groups => whole.all isGroupedDigit && areSixtieths groups
    | [] => false

def isFraction (s : List Char) : Bool :=
  let rest := afterSign s
  isPointed rest || isPointFirst s || isPointedSixtieth rest ||
    [".inf", ".Inf", ".INF"].any (·.toList == rest) ||
    [".nan", ".NaN", ".NAN"].any (·.toList == s)

def afterDate? (least most : Nat) (s : List Char) : Option (List Char) :=
  afterDigits? 4 4 s >>= after? '-' >>= afterDigits? least most >>= after? '-' >>=
    afterDigits? least most

/-- The blanks of a date with a time. -/
def isTimeBlank (c : Char) : Bool :=
  c == ' ' || c == '\t'

def afterTimeMark? : List Char → Option (List Char)
  | c :: rest =>
    if c = 'T' ∨ c = 't' then some rest
    else if isTimeBlank c then some (rest.dropWhile isTimeBlank)
    else none
  | [] => none

def afterClock? (s : List Char) : Option (List Char) := do
  let rest ← afterDigits? 1 2 s >>= after? ':' >>= afterDigits? 2 2 >>= after? ':' >>=
    afterDigits? 2 2
  match rest with
  | '.' :: fraction => return fraction.dropWhile Char.isDigit
  | _ => return rest

def isZone (s : List Char) : Bool :=
  match s with
  | ['Z'] => true
  | c :: rest =>
    (c == '-' || c == '+') &&
      match afterDigits? 1 2 rest with
      | some [] => true
      | some (':' :: minutes) => afterDigits? 2 2 minutes == some []
      | _ => false
  | [] => false

def isTimestamp (s : List Char) : Bool :=
  afterDate? 2 2 s == some [] ||
    match afterDate? 1 2 s >>= afterTimeMark? >>= afterClock? with
    | some rest => rest.isEmpty || isZone (rest.dropWhile isTimeBlank)
    | none => false

def isImplicit (s : List Char) : Bool :=
  isTruthWord s || isNullWord s || isSpecialMark s || isWhole s || isFraction s || isTimestamp s

end HomeAutomation.Yaml
