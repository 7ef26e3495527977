import HomeAutomation.Json.Basic

/-!
# Values and everything that is wrong with them

`Checked α` is either a value or the list of all issues that stand in its way. An issue is a flaw
and the path to the place where it was seen. Parts are put together with `<$>` and `<*>`: the whole
is valid exactly when every part is, and otherwise the issues of the parts come in the order of the
parts (`seq_invalid`).
-/

namespace HomeAutomation

inductive Flaw where
  | missing
  | notText
  | emptyText
  | notListed
  | notList
  | emptyList
  | notNumber
  | badNumeral
  | notTruth
  | badTruth
  | unknownKind
  | noKind
  /-- Not an object, where one kind of object is wanted. -/
  | notRecord
  /-- Not an object, where an object of any of several kinds is wanted. -/
  | noFields
  /-- Not an object, where any object would do. -/
  | notObject
  | badJson
  deriving DecidableEq, Repr

namespace Flaw

def code : Flaw → String
  | missing => "missing"
  | notText => "string_type"
  | emptyText => "string_too_short"
  | notListed => "literal_error"
  | notList => "list_type"
  | emptyList => "too_short"
  | notNumber => "float_type"
  | badNumeral => "float_parsing"
  | notTruth => "bool_type"
  | badTruth => "bool_parsing"
  | unknownKind => "union_tag_invalid"
  | noKind => "union_tag_not_found"
  | notRecord => "model_type"
  | noFields => "model_attributes_type"
  | notObject => "dict_type"
  | badJson => "json_invalid"

end Flaw

inductive Step where
  | name (s : String)
  | index (n : Nat)
  /-- To the same object, taken for one of the kind. -/
  | kind (s : String)
  deriving DecidableEq, Repr

def Step.toJson : Step → Json
  | .name s => .str s
  | .index n => .int n
  | .kind s => .str s

structure Issue where
  path : List Step
  flaw : Flaw
  deriving DecidableEq, Repr

namespace Issue

def under (step : Step) (issue : Issue) : Issue :=
  { issue with path := step :: issue.path }

/-- The value that one step leads to. A step that leads nowhere stays: what is missing is missing in
the value reached before. -/
def advance : Step → Json → Json
  | .name s, .obj fields => (Json.Fields.get? fields s).getD (.obj fields)
  | .index n, .arr items => items.getD n (.arr items)
  | _, v => v

def follow (path : List Step) (v : Json) : Json :=
  path.foldl (fun v step => advance step v) v

def subject (issue : Issue) (whole : Json) : Json :=
  follow issue.path whole

def toJson (issue : Issue) : Json :=
  .obj [("type", .str issue.flaw.code), ("loc", .arr (issue.path.map Step.toJson))]

end Issue

inductive Checked (α : Type) where
  | valid (value : α)
  | invalid (issues : List Issue)

namespace Checked

variable {α β : Type}

def flaw (f : Flaw) : Checked α :=
  .invalid [⟨[], f⟩]

def map (f : α → β) : Checked α → Checked β
  | .valid a => .valid (f a)
  | .invalid issues => .invalid issues

/-- Applies a checked function to a checked value; the issues of both count. -/
def seq (f : Checked (α → β)) (x : Checked α) : Checked β :=
  match f, x with
  | .valid f, .valid a => .valid (f a)
  | .valid _, .invalid issues => .invalid issues
  | .invalid issues, .valid _ => .invalid issues
  | .invalid issues, .invalid more => .invalid (issues ++ more)

instance : Applicative Checked where
  pure := .valid
  map := map
  seq f x := seq f (x ())

def under (step : Step) : Checked α → Checked α
  | .valid a => .valid a
  | .invalid issues => .invalid (issues.map (Issue.under step))

def andThen (x : Checked α) (next : α → Checked β) : Checked β :=
  match x with
  | .valid a => next a
  | .invalid issues => .invalid issues

def toExcept : Checked α → Except (List Issue) α
  | .valid a => .ok a
  | .invalid issues => .error issues

@[simp] theorem map_valid (f : α → β) (a : α) : f <$> (.valid a : Checked α) = .valid (f a) := rfl

@[simp] theorem map_invalid (f : α → β) (issues : List Issue) :
    f <$> (.invalid issues : Checked α) = .invalid issues := rfl

@[simp] theorem seq_valid (f : α → β) (a : α) :
    (.valid f : Checked (α → β)) <*> .valid a = .valid (f a) := rfl

@[simp] theorem seq_invalid (issues more : List Issue) :
    (.invalid issues : Checked (α → β)) <*> (.invalid more : Checked α) =
      .invalid (issues ++ more) := rfl

@[simp] theorem seq_valid_invalid (f : α → β) (issues : List Issue) :
    (.valid f : Checked (α → β)) <*> (.invalid issues : Checked α) = .invalid issues := rfl

@[simp] theorem seq_invalid_valid (issues : List Issue) (a : α) :
    (.invalid issues : Checked (α → β)) <*> .valid a = .invalid issues := rfl

@[simp] theorem under_valid (step : Step) (a : α) :
    (.valid a : Checked α).under step = .valid a := rfl

end Checked

end HomeAutomation
