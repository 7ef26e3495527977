import HomeAutomation.Backend.ConfigId
import HomeAutomation.Backend.Hub
import HomeAutomation.Backend.Platform
import HomeAutomation.Draft.Acceptance

/-!
# Platform first, hub as fallback

Every operation is tried on the platform. If the platform did not do it and the connection leads to
a hub, the same is tried once on the hub, never both at a time. When both ways fail, the error is
the platform's. Listing, creating and updating fail with it (`withFallback`), deleting and switching
return an outcome that holds it (`bestEffort`).

A draft that is rejected is never sent anywhere.
-/

namespace HomeAutomation

open Text

inductive OperationError where
  | rejected (why : Rejection)
  /-- The platform did not do it; the hub, if it was tried, failed as well. -/
  | failed (error : PlatformError) (hub : Option (Failure HubError))
  | foreign (fault : Fault)
  deriving DecidableEq, Repr

inductive Outcome where
  | accepted (backend : Backend)
  | refused (error : PlatformError)
  deriving DecidableEq, Repr

structure Backends where
  platform : Platform
  hubTimeout : Number
  deriving DecidableEq

/-- A way to the hub, if there is a connection, and the mode in which it is used. -/
structure Access where
  connection : Option HubConnection
  mode : HubMode
  deriving DecidableEq

namespace Backends

variable {α : Type}

abbrev Operation (α : Type) := Dialogue (Except OperationError α)

def hub? (backends : Backends) (access : Access) : Option Hub :=
  Hub.ofConnection? access.connection access.mode backends.hubTimeout

/-- Tries the platform and falls back on the hub. -/
def withFallback (backends : Backends) (access : Access) (primary : Platform.Attempt α)
    (fallback : Hub → Hub.Attempt α) : Operation (Backend × α) :=
  primary.andThen fun
    | .ok a => .done (.ok (.platform, a))
    | .error (.foreign fault) => .done (.error (.foreign fault))
    | .error (.told e) =>
      match backends.hub? access with
      | none => .done (.error (.failed e none))
      | some hub =>
        (fallback hub).map fun
          | .ok a => .ok (.hub, a)
          | .error why => .error (.failed e (some why))

/-- Tries the platform and falls back on the hub; that both fail is an outcome too. -/
def bestEffort (backends : Backends) (access : Access) (primary : Platform.Attempt Unit)
    (fallback : Hub → Hub.Attempt Unit) : Operation Outcome :=
  (backends.withFallback access primary fallback).map fun
    | .ok (backend, _) => .ok (.accepted backend)
    | .error (.failed e _) => .ok (.refused e)
    | .error why => .error why

def accepted (change : Operation (Backend × Unit)) : Operation Outcome :=
  change.map fun r => r.map fun (backend, _) => .accepted backend

def list (backends : Backends) (access : Access) : Operation (Backend × List ListedAutomation) :=
  backends.withFallback access backends.platform.list fun hub => hub.list

def payload (draft : Draft) (config : NativeAutomation) : Json :=
  .obj [("draft", draft.toWire), ("haConfig", config.toJson)]

def writeToHub (config : NativeAutomation) (clock : Int) (hub : Hub) : Hub.Attempt Unit :=
  hub.upsert (configId config.toFields clock) config.toFields

def create (backends : Backends) (access : Access) (clock : Int) (draft : Draft) :
    Operation Outcome :=
  match draft.checked with
  | .error why => .done (.error (.rejected why))
  | .ok config =>
    accepted (backends.withFallback access (backends.platform.create (payload draft config))
      (writeToHub config clock))

/-- Replaces an automation. The clock is in milliseconds. The draft is checked first; its checks do
not look at the id, and what is compiled under an id that has no text is never sent. -/
def update (backends : Backends) (access : Access) (clock : Int) (id : WideText) (draft : Draft) :
    Operation Outcome :=
  let draft := { draft with id := id.text? }
  match draft.checked with
  | .error why => .done (.error (.rejected why))
  | .ok config =>
    accepted (backends.withFallback access (backends.platform.update id (payload draft config))
      (writeToHub config clock))

def delete (backends : Backends) (access : Access) (id : WideText) : Operation Outcome :=
  backends.bestEffort access (backends.platform.delete id) fun hub => hub.delete id

/-- Switches an automation on or off. The hub gets the id in the body of a request, but with an id
that has no text it is never asked. -/
def setEnabled (backends : Backends) (access : Access) (id : WideText) (enabled : Bool) :
    Operation Outcome :=
  backends.bestEffort access (backends.platform.setEnabled id enabled) fun hub =>
    .addressed id fun s => hub.setEnabled s enabled

end Backends

end HomeAutomation
