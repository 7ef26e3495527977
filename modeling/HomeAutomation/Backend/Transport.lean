import HomeAutomation.Json.Basic
import HomeAutomation.Json.Parser
import HomeAutomation.Text.Quoted

/-!
# Requests and dialogues

A transport answers a request with a response, or fails to. A dialogue is a value that says what is
asked next, given all answers so far, and what comes out in the end; it does not know the transport.
`Dialogue.run` holds a dialogue over a transport and returns the outcome together with the requests
in the order in which they were made. Any function of a state and a request is a transport.
-/

namespace HomeAutomation

structure Request where
  method : String
  url : String
  headers : List (String × String)
  body : Json
  timeout : Number

structure Response where
  status : Int
  text : String
  deriving DecidableEq, Repr

namespace Response

/-- Neither the request nor the backend was at fault. -/
def isOk (r : Response) : Bool :=
  !(400 ≤ r.status && r.status < 600)

def value? (r : Response) : Option Json :=
  Json.parse? r.text

end Response

inductive Backend where
  | platform
  | hub
  deriving DecidableEq, Repr

def Backend.text : Backend → String
  | platform => "platform"
  | hub => "hub"

/-- The class of what a transport raises instead of answering. The program tells three families
apart: failures of the network, errors of a backend, and everything else. -/
inductive FaultKind where
  | noConnection
  | timedOut
  | badUrl
  | network (name : String)
  /-- An error of a backend, or of none in particular, with the status that it carries. -/
  | backend (whose : Option Backend) (status : Option Int)
  | brokeDown
  | wrongValue
  | missingKey
  | other (name : String)
  deriving DecidableEq, Repr

def FaultKind.isNetwork : FaultKind → Bool
  | noConnection | timedOut | badUrl | network _ => true
  | backend .. | brokeDown | wrongValue | missingKey | other _ => false

structure Fault where
  kind : FaultKind
  message : String
  deriving DecidableEq, Repr

/-- The text of a fault; a missing key is quoted. -/
def Fault.text (fault : Fault) : String :=
  match fault.kind with
  | .missingKey => Text.quoted fault.message
  | _ => fault.message

abbrev Reply := Except Fault Response

/-- Questions to backends that end with an outcome. -/
inductive Dialogue (α : Type) where
  | done (outcome : α)
  | ask (request : Request) (next : Reply → Dialogue α)

namespace Dialogue

variable {α β σ : Type}

def andThen : Dialogue α → (α → Dialogue β) → Dialogue β
  | done a, f => f a
  | ask request next, f => ask request fun reply => (next reply).andThen f

def map (f : α → β) (d : Dialogue α) : Dialogue β :=
  d.andThen fun a => done (f a)

/-- An attempt of which only the success counts, not the value. -/
def perform {ε : Type} (attempt : Dialogue (Except ε α)) : Dialogue (Except ε Unit) :=
  attempt.map fun r => r.map fun _ => ()

/-- The outcome of a dialogue over a transport, the requests made, and the state left behind. -/
def run (transport : σ → Request → Reply × σ) : Dialogue α → σ → α × List Request × σ
  | done a, s => (a, [], s)
  | ask request next, s =>
    let (reply, s) := transport s request
    let (a, requests, s) := (next reply).run transport s
    (a, request :: requests, s)

@[simp] theorem done_andThen (a : α) (f : α → Dialogue β) : (done a).andThen f = f a := rfl

@[simp] theorem ask_andThen (request : Request) (next : Reply → Dialogue α)
    (f : α → Dialogue β) :
    (ask request next).andThen f = ask request fun reply => (next reply).andThen f := rfl

@[simp] theorem andThen_done (d : Dialogue α) : d.andThen done = d := by
  induction d with
  | done a => rfl
  | ask request next ih => simp [ih]

theorem andThen_andThen {γ : Type} (d : Dialogue α) (f : α → Dialogue β) (g : β → Dialogue γ) :
    (d.andThen f).andThen g = d.andThen fun a => (f a).andThen g := by
  induction d with
  | done a => rfl
  | ask request next ih => simp [ih]

@[simp] theorem map_done (f : α → β) (a : α) : (done a).map f = done (f a) := rfl

@[simp] theorem map_ask (f : α → β) (request : Request) (next : Reply → Dialogue α) :
    (ask request next).map f = ask request fun reply => (next reply).map f := rfl

@[simp] theorem run_done (transport : σ → Request → Reply × σ) (a : α) (s : σ) :
    (done a).run transport s = (a, [], s) := rfl

theorem run_ask (transport : σ → Request → Reply × σ) (request : Request)
    (next : Reply → Dialogue α) (s : σ) :
    (ask request next).run transport s =
      (((next (transport s request).1).run transport (transport s request).2).1,
        request :: ((next (transport s request).1).run transport (transport s request).2).2.1,
        ((next (transport s request).1).run transport (transport s request).2).2.2) := rfl

/-- A dialogue and its continuation run one after the other: the requests of the first come
first. -/
theorem run_andThen (transport : σ → Request → Reply × σ) (d : Dialogue α)
    (f : α → Dialogue β) (s : σ) :
    (d.andThen f).run transport s =
      (((f (d.run transport s).1).run transport (d.run transport s).2.2).1,
        (d.run transport s).2.1 ++
          ((f (d.run transport s).1).run transport (d.run transport s).2.2).2.1,
        ((f (d.run transport s).1).run transport (d.run transport s).2.2).2.2) := by
  induction d generalizing s with
  | done a => rfl
  | ask request next ih => simp [run_ask, ih]

theorem run_map (transport : σ → Request → Reply × σ) (d : Dialogue α) (f : α → β) (s : σ) :
    (d.map f).run transport s =
      (f (d.run transport s).1, (d.run transport s).2.1, (d.run transport s).2.2) := by
  simp [map, run_andThen]

end Dialogue

end HomeAutomation
