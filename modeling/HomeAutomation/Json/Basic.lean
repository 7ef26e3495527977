import HomeAutomation.Number

/-!
# JSON values

A JSON value keeps whole numbers apart from doubles, and an object is a list of named values in the
order in which the names came. Names in an object that was read are distinct; `insert` keeps them
so. A name that is not there reads as `null` (`field`).

Void values say nothing: `null`, `false`, zero, and the empty text, list and object.
-/

namespace HomeAutomation

inductive Json where
  | null
  | bool (b : Bool)
  | int (n : Int)
  | double (x : Float)
  | str (s : String)
  | arr (items : List Json)
  | obj (fields : List (String × Json))
  deriving Inhabited

namespace Json

abbrev Fields := List (String × Json)

def ofNumber : Number → Json
  | .int n => .int n
  | .double x => .double x

def number? : Json → Option Number
  | .int n => some (.int n)
  | .double x => some (.double x)
  | _ => none

def text? : Json → Option String
  | .str s => some s
  | _ => none

def items? : Json → Option (List Json)
  | .arr items => some items
  | _ => none

def fields? : Json → Option Fields
  | .obj fields => some fields
  | _ => none

def ofText? : Option String → Json
  | some s => .str s
  | none => .null

def ofTexts (texts : List String) : Json :=
  .arr (texts.map .str)

def isNull : Json → Bool
  | .null => true
  | _ => false

def isVoid : Json → Bool
  | .null => true
  | .bool b => !b
  | .int n => n == 0
  | .double x => (Number.double x).isZero
  | .str s => s.isEmpty
  | .arr items => items.isEmpty
  | .obj fields => fields.isEmpty

def orElse (v w : Json) : Json :=
  if v.isVoid then w else v

namespace Fields

def get? (fields : Fields) (name : String) : Option Json :=
  fields.lookup name

def field (fields : Fields) (name : String) : Json :=
  (fields.get? name).getD .null

def has (fields : Fields) (name : String) : Bool :=
  (fields.get? name).isSome

/-- Puts a value under a name: in its place if the name is there, else at the end. -/
def insert : Fields → String → Json → Fields
  | [], name, value => [(name, value)]
  | (n, v) :: rest, name, value =>
    if n = name then (n, value) :: rest else (n, v) :: insert rest name value

@[simp] theorem get?_nil (name : String) : get? [] name = none := rfl

theorem get?_cons (n : String) (v : Json) (rest : Fields) (name : String) :
    get? ((n, v) :: rest) name = if name = n then some v else get? rest name := by
  by_cases h : name = n
  · simp [get?, h]
  · simp [get?, List.lookup_cons, h, beq_false_of_ne h]

@[simp] theorem get?_insert_self (fields : Fields) (name : String) (value : Json) :
    get? (insert fields name value) name = some value := by
  induction fields with
  | nil => simp [insert, get?_cons]
  | cons entry rest ih =>
    obtain ⟨n, v⟩ := entry
    by_cases h : n = name
    · simp [insert, get?_cons, h]
    · simp [insert, get?_cons, h, Ne.symm h, ih]

theorem get?_insert_of_ne (fields : Fields) {name other : String} (value : Json)
    (h : other ≠ name) : get? (insert fields name value) other = get? fields other := by
  induction fields with
  | nil => simp [insert, get?_cons, h]
  | cons entry rest ih =>
    obtain ⟨n, v⟩ := entry
    by_cases hn : n = name
    · simp [insert, get?_cons, hn, h]
    · simp [insert, get?_cons, hn, ih]

end Fields

/-- Whether two values are the same, numbers of different kinds told apart. -/
def same : Json → Json → Bool
  | .null, .null => true
  | .bool a, .bool b => a == b
  | .int m, .int n => m == n
  | .double x, .double y => x.toBits == y.toBits
  | .str s, .str t => s == t
  | .arr xs, .arr ys => sameItems xs ys
  | .obj fs, .obj gs => sameFields fs gs
  | _, _ => false
where
  sameItems : List Json → List Json → Bool
    | [], [] => true
    | x :: xs, y :: ys => same x y && sameItems xs ys
    | _, _ => false
  sameFields : List (String × Json) → List (String × Json) → Bool
    | [], [] => true
    | (m, x) :: fs, (n, y) :: gs => m == n && same x y && sameFields fs gs
    | _, _ => false

mutual

/-- The value without the named values that are `null`, at every depth. -/
def withoutNulls : Json → Json
  | .arr items => .arr (withoutNullsItems items)
  | .obj fields => .obj (withoutNullsFields fields)
  | v => v

def withoutNullsItems : List Json → List Json
  | [] => []
  | v :: rest => v.withoutNulls :: withoutNullsItems rest

def withoutNullsFields : List (String × Json) → List (String × Json)
  | [] => []
  | (name, v) :: rest =>
    if v.isNull then withoutNullsFields rest
    else (name, v.withoutNulls) :: withoutNullsFields rest

end

mutual

def isFinite : Json → Bool
  | .double x => x.isFinite
  | .arr items => isFiniteItems items
  | .obj fields => isFiniteFields fields
  | _ => true

def isFiniteItems : List Json → Bool
  | [] => true
  | v :: rest => v.isFinite && isFiniteItems rest

def isFiniteFields : List (String × Json) → Bool
  | [] => true
  | (_, v) :: rest => v.isFinite && isFiniteFields rest

end

end Json

end HomeAutomation
