import HomeAutomation.Json.Basic
import HomeAutomation.Yaml.Scalar

/-!
# Indented documents

`Yaml.render` writes a JSON value as a YAML document in block style, two columns to a level, with
the named values of an object in their order. The items of a list that is the value of a key stand
in the column of the key. A key that is empty, long or of several lines gets a line of its own
after a question mark. A document that is one plain scalar is closed by three points.
-/

namespace HomeAutomation.Yaml

/-- What stands before a value on its line. -/
inductive Place where
  /-- Nothing: the value is the document. -/
  | root
  /-- The mark of an item, of a key on a line of its own or of its value. -/
  | item
  /-- A key and a colon. -/
  | value
  deriving DecidableEq

namespace Place

def gap : Place → List Char
  | .root => []
  | _ => [' ']

/-- The column of an object in this place, inside a collection in column `indent`. -/
def fieldsColumn (place : Place) (indent : Nat) : Nat :=
  if place = .root then indent else indent + 2

def itemsColumn (place : Place) (indent : Nat) : Nat :=
  if place = .item then indent + 2 else indent

def lead (place : Place) (column : Nat) : List Char :=
  if place = .value then newLine column else place.gap

end Place

def plainText : Json → List Char
  | .null => "null".toList
  | .bool b => if b then "true".toList else "false".toList
  | .int n => (toString n).toList
  | .double x => (DoubleLayout.document.write x).toList
  | _ => []

/-- A key and the mark after it, in the column `indent`; the place and column of its value. -/
def keyLines (indent : Nat) (key : List Char) : List Char × Place × Nat :=
  if isSimpleKey key then
    let text := scalar ⟨indent, indent + 2, false⟩ key
    (text ++ [':'], .value, indent + text.length + 1)
  else
    ("? ".toList ++ scalar ⟨indent + 2, indent + 2, true⟩ key ++ newLine indent ++ [':'], .item,
      indent + 1)

mutual

def node (place : Place) (indent column : Nat) : Json → List Char
  | .str s => place.gap ++ scalar ⟨column + place.gap.length, indent + 2, true⟩ s.toList
  | .arr [] => place.gap ++ ['[', ']']
  | .arr (v :: rest) =>
    let own := place.itemsColumn indent
    place.lead own ++ items own (v :: rest)
  | .obj [] => place.gap ++ "\x7b\x7d".toList
  | .obj (field :: rest) =>
    let own := place.fieldsColumn indent
    place.lead own ++ fields own (field :: rest)
  | v => place.gap ++ plainText v

def items (indent : Nat) : List Json → List Char
  | [] => []
  | v :: rest =>
    '-' :: node .item indent (indent + 1) v ++
      (if rest.isEmpty then [] else newLine indent ++ items indent rest)

def fields (indent : Nat) : List (String × Json) → List Char
  | [] => []
  | (name, v) :: rest =>
    let (lines, place, column) := keyLines indent name.toList
    lines ++ node place indent column v ++
      (if rest.isEmpty then [] else newLine indent ++ fields indent rest)

end

def isPlainScalar : Json → Bool
  | .arr _ => false
  | .obj _ => false
  | .str s => styleOf s.toList = .plain
  | _ => true

def render (v : Json) : String :=
  let closing := if isPlainScalar v then "\n...\n" else "\n"
  String.ofList (node .root 0 0 v) ++ closing

end HomeAutomation.Yaml
