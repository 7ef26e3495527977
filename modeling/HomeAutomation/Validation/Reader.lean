import HomeAutomation.Text.Lowercase
import HomeAutomation.Validation.Checked
import HomeAutomation.Validation.Vocabulary

/-!
# Reading values out of JSON

A reader turns a JSON value into a checked value. Readers of scalars are lenient: a number may come
as a text or a truth value, and a truth value as a word or as zero or one. An object is read field
by field. A field has two names, the wire name and the plain name; the wire name wins when both are
there, whatever its value, and issues name the one that was read (`Key.find?`). Names that belong to
no field are not looked at.
-/

namespace HomeAutomation

abbrev Reader (α : Type) := Json → Checked α

abbrev NonEmptyText := { s : String // s ≠ "" }

structure Key where
  wire : String
  plain : String

namespace Key

def single (name : String) : Key := ⟨name, name⟩

def find? (key : Key) (fields : Json.Fields) : Option (String × Json) :=
  match fields.get? key.wire with
  | some v => some (key.wire, v)
  | none => (fields.get? key.plain).map fun v => (key.plain, v)

/-- The wire name wins. -/
theorem find?_of_wire {key : Key} {fields : Json.Fields} {v : Json}
    (h : fields.get? key.wire = some v) : key.find? fields = some (key.wire, v) := by
  simp [find?, h]

/-- Without the wire name the plain name is looked at. -/
theorem find?_of_plain {key : Key} {fields : Json.Fields}
    (h : fields.get? key.wire = none) :
    key.find? fields = (fields.get? key.plain).map fun v => (key.plain, v) := by
  simp [find?, h]

end Key

namespace Reader

variable {α : Type}

def text : Reader String
  | .str s => .valid s
  | _ => .flaw .notText

def nonEmptyText : Reader NonEmptyText
  | .str s => if h : s = "" then .flaw .emptyText else .valid ⟨s, h⟩
  | _ => .flaw .notText

/-- A double. A whole number that no double is near to is refused. -/
def number : Reader Float
  | .int n =>
    let x := Number.roundInt n
    if x.isFinite then .valid x else .flaw .notNumber
  | .double x => .valid x
  | .bool b => .valid (if b then 1.0 else 0.0)
  | .str s =>
    match Decimal.readLoose? s with
    | some d => .valid d.toDouble
    | none => .flaw .badNumeral
  | _ => .flaw .notNumber

def trueWords : List String := ["1", "on", "t", "true", "y", "yes"]

def falseWords : List String := ["0", "off", "f", "false", "n", "no"]

/-- A whole number that fits into 64 bits with a sign. -/
def isMachineInt (n : Int) : Bool :=
  -9223372036854775808 ≤ n && n < 9223372036854775808

/-- A whole double strictly between the bounds of 64 bits with a sign. -/
def isMachineDouble (x : Float) : Bool :=
  x.floor == x && -9223372036854775808.0 < x && x < 9223372036854775808.0

/-- A number as a truth value: zero is false and one is true. Another whole number of machine size
is a wrong truth value, and any other number is not even that. -/
def truthOfNumber (zero one whole : Bool) : Checked Bool :=
  if zero then .valid false
  else if one then .valid true
  else if whole then .flaw .badTruth
  else .flaw .notTruth

def truth : Reader Bool
  | .bool b => .valid b
  | .int n => truthOfNumber (n == 0) (n == 1) (isMachineInt n)
  | .double x => truthOfNumber (x == 0.0) (x == 1.0) (isMachineDouble x)
  | .str s =>
    let word := s.map Char.toLower
    if trueWords.contains word then .valid true
    else if falseWords.contains word then .valid false
    else .flaw .badTruth
  | _ => .flaw .notTruth

def word [Vocabulary α] : Reader α
  | .str s =>
    match Vocabulary.ofText? s with
    | some w => .valid w
    | none => .flaw .notListed
  | _ => .flaw .notListed

def exactly (s : String) : Reader Unit
  | .str t => if t = s then .valid () else .flaw .notListed
  | _ => .flaw .notListed

def nullable (read : Reader α) : Reader (Option α)
  | .null => .valid none
  | v => some <$> read v

def items (read : Reader α) (index : Nat) : List Json → Checked (List α)
  | [] => .valid []
  | v :: rest => (· :: ·) <$> (read v).under (.index index) <*> items read (index + 1) rest

def list (read : Reader α) : Reader (List α)
  | .arr values => items read 0 values
  | _ => .flaw .notList

def nonEmptyList (read : Reader α) : Reader (α × List α)
  | .arr [] => .flaw .emptyList
  | .arr (v :: rest) => Prod.mk <$> (read v).under (.index 0) <*> items read 1 rest
  | _ => .flaw .notList

/-- An object read by its fields; `stray` is the flaw of anything else. -/
def record (stray : Flaw) (read : Json.Fields → Checked α) : Reader α
  | .obj fields => read fields
  | _ => .flaw stray

def tagged (kinds : List (String × (Json.Fields → Checked α))) : Reader α
  | .obj fields =>
    match Json.Fields.get? fields "kind" with
    | some (.str kind) =>
      match kinds.lookup kind with
      | some read => (read fields).under (.kind kind)
      | none => .flaw .unknownKind
    | some _ => .flaw .unknownKind
    | none => .flaw .noKind
  | _ => .flaw .noFields

end Reader

namespace Json.Fields

variable {α : Type}

def required (fields : Fields) (key : Key) (read : Reader α) : Checked α :=
  match key.find? fields with
  | some (name, v) => (read v).under (.name name)
  | none => .invalid [⟨[.name key.wire], .missing⟩]

def orDefault (fields : Fields) (key : Key) (default : α) (read : Reader α) : Checked α :=
  match key.find? fields with
  | some (name, v) => (read v).under (.name name)
  | none => .valid default

def optional (fields : Fields) (key : Key) (read : Reader α) : Checked (Option α) :=
  fields.orDefault key none (Reader.nullable read)

def ofKind (fields : Fields) (kind : String) : Checked Unit :=
  fields.orDefault (.single "kind") () (Reader.exactly kind)

end Json.Fields

end HomeAutomation
