import HomeAutomation.Yaml.Implicit

/-!
# Styles of scalars

A text is written plain if a reader takes it for the same text, else between single quotes if they
can hold it, else between double quotes, where every character has an escape. `styleOf` makes the
choice from what stands in the text.
-/

namespace HomeAutomation.Yaml

inductive Style where
  | plain
  | single
  | double
  deriving DecidableEq, Repr

def isBreak (c : Char) : Bool :=
  let n := c.toNat
  n == 0x0A || n == 0x85 || n == 0x2028 || n == 0x2029

def isSeparator (c : Char) : Bool :=
  isBreak c || c == ' ' || c == '\t' || c == '\r' || c.toNat == 0

def startsSeparated (s : List Char) : Bool :=
  match s with
  | c :: _ => isSeparator c
  | [] => true

def isLeadingMark (c : Char) : Bool :=
  "#,[]\x7b\x7d&*!|>'\"%@\x60".toList.contains c

/-- A mark inside a scalar ends it: a colon before a separator, a number sign after one. -/
def hasInnerMark : List Char → Bool
  | c :: d :: rest =>
    (d == ':' && startsSeparated rest) || (d == '#' && isSeparator c) || hasInnerMark (d :: rest)
  | _ => false

/-- The scalar begins like a construct, or like the border of a document. -/
def hasLeadingMark (s : List Char) : Bool :=
  "---".toList.isPrefixOf s || "...".toList.isPrefixOf s ||
    match s with
    | c :: rest =>
      isLeadingMark c || ((c == '?' || c == ':' || c == '-') && startsSeparated rest)
    | [] => false

def isVisible (c : Char) : Bool :=
  let n := c.toNat
  n == 0x0A || (0x20 ≤ n && n ≤ 0x7E) || n == 0x85 ||
    (0xA0 ≤ n && n ≤ 0xFFFD && n != 0xFEFF) || (0x10000 ≤ n && n < 0x10FFFF)

def hasSpaceAtBreak (s : List Char) : Bool :=
  (s.zip (s.drop 1)).any fun (c, d) => (c == ' ' && isBreak d) || (isBreak c && d == ' ')

def isMultiline (s : List Char) : Bool :=
  s.any isBreak

def fitsSingle (s : List Char) : Bool :=
  s.all isVisible && !hasSpaceAtBreak s

def fitsPlain (s : List Char) : Bool :=
  s.all isVisible && !isMultiline s && s.head? != some ' ' && s.getLast? != some ' ' &&
    !hasLeadingMark s && !hasInnerMark s && !isImplicit s

def styleOf (s : List Char) : Style :=
  if fitsPlain s then .plain else if fitsSingle s then .single else .double

/-- The longest text that can be a key on the line of its value. -/
def maxSimpleKey : Nat := 122

def isSimpleKey (s : List Char) : Bool :=
  !s.isEmpty && s.length ≤ maxSimpleKey && !isMultiline s

end HomeAutomation.Yaml
