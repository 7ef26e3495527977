import HomeAutomation.Json.Encoding
import HomeAutomation.Text.Percent
import HomeAutomation.Validation.Checked

/-!
# Requests to the server and its answers

A request names a path and perhaps a query, both percent-encoded, and may bring a body of JSON.
Dot segments are taken out of the path when it is sent. The path is decoded before anything is
looked up, so an encoded slash separates as a plain one does.
-/

namespace HomeAutomation

open Text

structure HttpRequest where
  method : String
  target : String
  headers : List (String × String)
  body : Option String
  deriving DecidableEq, Repr

namespace HttpRequest

def rawPath (r : HttpRequest) : List Char :=
  r.target.toList.takeWhile fun c => c != '?' && c != '#'

/-- Adds a segment to the segments before it, the last of which stands first: a dot adds nothing,
and two dots take a segment away, but not the empty one that stands for the root. -/
def addSegment (before : List (List Char)) (segment : List Char) : List (List Char) :=
  if segment = ['.'] then before
  else if segment = ['.', '.'] then if before = [[]] then before else before.drop 1
  else segment :: before

def withoutDots (path : List Char) : List Char :=
  ['/'].intercalate ((path.splitOn '/').foldl addSegment []).reverse

def rawQuery (r : HttpRequest) : List Char :=
  ((r.target.toList.takeWhile (· != '#')).dropWhile (· != '?')).drop 1

/-- The decoded path. It is decoded twice, by the sender and by the receiver. -/
def path (r : HttpRequest) : List Char :=
  Percent.decodeChars (Percent.decodeChars (withoutDots r.rawPath))

/-- A name or a value of a query, in which a plus stands for a space. -/
def decodeParameter (s : List Char) : String :=
  String.ofList (Percent.decodeChars (s.map fun c => if c = '+' then ' ' else c))

/-- One parameter of a query; without an equals sign its value is empty. -/
def parameter (s : List Char) : String × String :=
  (decodeParameter (s.takeWhile (· != '=')), decodeParameter ((s.dropWhile (· != '=')).drop 1))

def parameter? (r : HttpRequest) (name : String) : Option String :=
  ((r.rawQuery.splitOn '&').map parameter).reverse.lookup name

def header? (r : HttpRequest) (name : String) : Option String :=
  (r.headers.find? fun (n, _) => n.map Char.toLower == name.map Char.toLower).map Prod.snd

inductive Content where
  /-- Nothing: there is no body, or the body is `null`. -/
  | absent
  | value (v : Json)
  | malformed (position : Nat)
  /-- Octets that are no text, or a number with too many digits. -/
  | unreadable

def content (r : HttpRequest) : Content :=
  match nonEmpty? r.body with
  | none => .absent
  | some text =>
    match (Json.received? text).map Json.parse with
    | some (.ok .null) => .absent
    | some (.ok v) => .value v
    | some (.error (.malformed position)) => .malformed position
    | some (.error .oversized) => .unreadable
    | none => .unreadable

end HttpRequest

inductive HttpBody where
  | json (v : Json)
  | text (s : String)

structure HttpAnswer where
  status : Nat
  body : HttpBody

namespace HttpAnswer

def ok (fields : Json.Fields) : HttpAnswer :=
  ⟨200, .json (.obj fields)⟩

def refusal (status : Nat) (detail : String) : HttpAnswer :=
  ⟨status, .json (.obj [("detail", .str detail)])⟩

def broken : HttpAnswer :=
  ⟨500, .text "Internal Server Error"⟩

def unprocessable (issues : List Issue) : HttpAnswer :=
  ⟨422, .json (.obj [("detail", .arr (issues.map fun i => (i.under (.name "body")).toJson))])⟩

/-- The value in the body is not what it should be. The answer goes out together with the parts
that are refused, and a number that JSON cannot hold breaks it. -/
def refused (value : Json) (issues : List Issue) : HttpAnswer :=
  if issues.all fun issue => (issue.subject value).isFinite then unprocessable issues else broken

end HttpAnswer

end HomeAutomation
