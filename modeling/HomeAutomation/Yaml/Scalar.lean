import HomeAutomation.Text.Quoted
import HomeAutomation.Yaml.Style

/-!
# Writing scalars

A scalar starts in some column and may go on over several lines, which are then indented. Lines are
folded at a lone space beyond the `lineWidth`; between double quotes a backslash keeps such a
break out of the text. A key is written on one line, whatever its length.
-/

namespace HomeAutomation.Yaml

open Text

/-- The column beyond which a line is folded. -/
def lineWidth : Nat := 80

/-- Where a scalar is written: the column it starts in, the indentation of its further lines, and
whether there may be any. -/
structure Position where
  column : Nat
  indent : Nat
  folds : Bool

def spaces (n : Nat) : List Char :=
  List.replicate n ' '

def newLine (indent : Nat) : List Char :=
  '\n' :: spaces indent

/-- A line break inside single quotes: the first of several needs an empty line, and the last is
followed by the indentation. -/
def foldedBreak (indent : Nat) (previous : Option Char) (c : Char) (rest : List Char) :
    List Char :=
  let opening := if c = '\n' ∧ !previous.any isBreak then ['\n'] else []
  let closing := if rest.head?.any isBreak then [] else spaces indent
  opening ++ c :: closing

/-- The characters of a plain or single-quoted scalar. Single quotes are doubled if `doubling` is
set. -/
def folded (doubling : Bool) (pos : Position) (column : Nat) (previous : Option Char) :
    List Char → List Char
  | [] => []
  | c :: rest =>
    if c = ' ' ∧ pos.folds ∧ lineWidth < column ∧ previous.any (· != ' ') ∧
        rest.head?.any (· != ' ') then
      newLine pos.indent ++ folded doubling pos pos.indent (some c) rest
    else if isBreak c then
      foldedBreak pos.indent previous c rest ++ folded doubling pos pos.indent (some c) rest
    else if c = '\'' ∧ doubling then
      '\'' :: '\'' :: folded doubling pos (column + 2) (some c) rest
    else c :: folded doubling pos (column + 1) (some c) rest

def letterEscape? (c : Char) : Option Char :=
  match c.toNat with
  | 0x00 => some '0'
  | 0x07 => some 'a'
  | 0x08 => some 'b'
  | 0x09 => some 't'
  | 0x0A => some 'n'
  | 0x0B => some 'v'
  | 0x0C => some 'f'
  | 0x0D => some 'r'
  | 0x1B => some 'e'
  | 0x22 => some '"'
  | 0x5C => some '\\'
  | 0x85 => some 'N'
  | 0xA0 => some '_'
  | 0x2028 => some 'L'
  | 0x2029 => some 'P'
  | _ => none

def isDoubleQuotable (c : Char) : Bool :=
  let n := c.toNat
  (0x20 ≤ n && n ≤ 0x7E && c != '"' && c != '\\') ||
    (0xA0 ≤ n && n ≤ 0xFFFD && n != 0x2028 && n != 0x2029 && n != 0xFEFF)

def doubleEscape (c : Char) : List Char :=
  match letterEscape? c with
  | some letter => ['\\', letter]
  | none => (codeEscape c).map fun d => if 'a' ≤ d ∧ d ≤ 'f' then d.toUpper else d

/-- The characters of a double-quoted scalar. `run` is how many characters were written since the
last escape or break. A line is broken before a space or where a run begins, never before the first
or the last character. -/
def doubleQuoted (pos : Position) (first : Bool) (run column : Nat) : List Char → List Char
  | [] => []
  | c :: rest =>
    let inside := pos.folds && !first && !rest.isEmpty
    if isDoubleQuotable c then
      if inside ∧ (c = ' ' ∨ run = 0) ∧ lineWidth < column then
        let kept := if c = ' ' then ['\\'] else []
        '\\' :: newLine pos.indent ++ kept ++
          c :: doubleQuoted pos false 1 (pos.indent + kept.length + 1) rest
      else c :: doubleQuoted pos false (run + 1) (column + 1) rest
    else
      let escape := doubleEscape c
      let column := column + escape.length
      if inside ∧ lineWidth + 1 < column then
        let kept := if rest.head? = some ' ' then ['\\'] else []
        escape ++ '\\' :: newLine pos.indent ++ kept ++
          doubleQuoted pos false 0 (pos.indent + kept.length) rest
      else escape ++ doubleQuoted pos false 0 column rest

def scalar (pos : Position) (s : List Char) : List Char :=
  match styleOf s with
  | .plain => folded false pos pos.column none s
  | .single => '\'' :: folded true pos (pos.column + 1) none s ++ ['\'']
  | .double => '"' :: doubleQuoted pos true 0 (pos.column + 1) s ++ ['"']

end HomeAutomation.Yaml
