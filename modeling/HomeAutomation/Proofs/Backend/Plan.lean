import HomeAutomation.Backend.Fallback
import HomeAutomation.Proofs.Backend.Exchange
import HomeAutomation.Proofs.Draft.Accepted

/-!
# Plans of operations

The five operations differ in what they ask of each backend and in how they end, but not in the
order in which the backends are asked. A plan holds all that differs: the attempt on each backend
as one exchange, and what comes of success and of failure. `Plan.carriedOut` is the order that they
share. Listing is `Backends.listing`, the other operations are changes (`Change.plan`), and each
operation of `Backends` carries its plan out (`list_eq_carriedOut`, `perform_eq_carriedOut`).
-/

namespace HomeAutomation

open Text

/-- What an operation asks of each backend, and what comes of the answers. The attempt on a backend
is one exchange, with the order as the request. -/
structure Plan (α β : Type) where
  primary : Platform → Platform.Attempt α
  fallback : Hub → Hub.Attempt α
  platformOrder : Order
  ofPlatform : Reply → Except (Failure PlatformError) α
  hubOrder : Order
  ofHub : Hub → Reply → Except (Failure HubError) α
  settled : Backend → α → β
  /-- The outcome when the platform has not done it, and the hub, if it was tried, neither. -/
  exhausted : PlatformError → Option (Failure HubError) → Except OperationError β
  /-- Of a good reply of the platform only the value is read. -/
  ofPlatform_eq : ∃ read : Json → α, ∀ reply,
    ofPlatform reply = (Platform.conclude reply).map read
  primary_eq : ∀ platform, primary platform = platform.tried platformOrder ofPlatform
  fallback_eq : ∀ hub, fallback hub = .exchange (hub.requestOf hubOrder) (ofHub hub)

namespace Plan

variable {α β : Type}

/-- How an operation ends, given how trying both backends ended. -/
def conclude (plan : Plan α β) :
    Except OperationError (Backend × α) → Except OperationError β
  | .ok (backend, a) => .ok (plan.settled backend a)
  | .error (.failed e hub) => plan.exhausted e hub
  | .error (.rejected why) => .error (.rejected why)
  | .error (.foreign fault) => .error (.foreign fault)

def carriedOut (plan : Plan α β) (backends : Backends) (access : Access) :
    Backends.Operation β :=
  (backends.withFallback access (plan.primary backends.platform) plan.fallback).map plan.conclude

section Run

variable {σ : Type} (plan : Plan α β) (backends : Backends) (access : Access)
  (transport : σ → Request → Reply × σ) {s t : σ} {asked : List Request}

theorem run_primary_of_no_url (s : σ) (h : backends.platform.url = "") :
    (plan.primary backends.platform).run transport s =
      (.error (.told .notConfigured), [], s) := by
  rw [plan.primary_eq, Platform.run_tried, if_pos h]

theorem run_primary_of_url (s : σ) (h : backends.platform.url ≠ "") :
    (plan.primary backends.platform).run transport s =
      (plan.ofPlatform (transport s (backends.platform.requestOf plan.platformOrder)).1,
        [backends.platform.requestOf plan.platformOrder],
        (transport s (backends.platform.requestOf plan.platformOrder)).2) := by
  rw [plan.primary_eq, Platform.run_tried, if_neg h]

/-- What the platform has done is not tried on the hub. -/
theorem run_carriedOut_of_ok {a : α}
    (h : (plan.primary backends.platform).run transport s = (.ok a, asked, t)) :
    (plan.carriedOut backends access).run transport s =
      (.ok (plan.settled .platform a), asked, t) := by
  rw [carriedOut, Dialogue.run_map, Backends.withFallback, Dialogue.run_andThen, h]
  simp [conclude]

/-- What went wrong on the way to the platform is not tried on the hub either. -/
theorem run_carriedOut_of_foreign {fault : Fault}
    (h : (plan.primary backends.platform).run transport s =
      (.error (.foreign fault), asked, t)) :
    (plan.carriedOut backends access).run transport s =
      (.error (.foreign fault), asked, t) := by
  rw [carriedOut, Dialogue.run_map, Backends.withFallback, Dialogue.run_andThen, h]
  simp [conclude]

/-- What the platform has not done is lost when there is no hub to fall back on. -/
theorem run_carriedOut_of_no_hub {e : PlatformError}
    (h : (plan.primary backends.platform).run transport s = (.error (.told e), asked, t))
    (hhub : backends.hub? access = none) :
    (plan.carriedOut backends access).run transport s =
      (plan.exhausted e none, asked, t) := by
  rw [carriedOut, Dialogue.run_map, Backends.withFallback, Dialogue.run_andThen, h, hhub]
  simp [conclude]

/-- What the platform has not done is tried on the hub once. -/
theorem run_carriedOut_of_hub {e : PlatformError} {hub : Hub}
    (h : (plan.primary backends.platform).run transport s = (.error (.told e), asked, t))
    (hhub : backends.hub? access = some hub) :
    (plan.carriedOut backends access).run transport s =
      (match plan.ofHub hub (transport t (hub.requestOf plan.hubOrder)).1 with
        | .ok a => .ok (plan.settled .hub a)
        | .error why => plan.exhausted e (some why),
        asked ++ [hub.requestOf plan.hubOrder],
        (transport t (hub.requestOf plan.hubOrder)).2) := by
  rw [carriedOut, Dialogue.run_map, Backends.withFallback, Dialogue.run_andThen, h, hhub]
  simp only [plan.fallback_eq, Dialogue.map_exchange, Dialogue.run_exchange]
  cases plan.ofHub hub (transport t (hub.requestOf plan.hubOrder)).1 with
  | ok a => rfl
  | error why => rfl

end Run

end Plan

namespace Backends

def listing : Plan (List ListedAutomation) (Backend × List ListedAutomation) where
  primary := Platform.list
  fallback := Hub.list
  platformOrder := ⟨"GET", "/api/automations", .null⟩
  ofPlatform reply := (Platform.conclude reply).map ListedAutomation.ofItems
  hubOrder := ⟨"GET", "/api/states", .null⟩
  ofHub hub reply :=
    (hub.conclude reply).map fun value => ListedAutomation.ofStates (.arr (value.items?.getD []))
  settled backend items := (backend, items)
  exhausted e hub := .error (.failed e hub)
  ofPlatform_eq := ⟨ListedAutomation.ofItems, fun _ => rfl⟩
  primary_eq platform := by
    rw [Platform.list, Platform.request_eq_tried, Platform.map_tried]
    rfl
  fallback_eq hub := by
    have hrooted : Hub.rooted "/api/states" = "/api/states" := by decide
    rw [Hub.list, Hub.states, Hub.request_eq_exchange hub hrooted]
    simp only [Dialogue.map_exchange]
    congr 1
    funext reply
    cases hub.conclude reply <;> rfl

theorem list_eq_carriedOut (backends : Backends) (access : Access) :
    backends.list access = listing.carriedOut backends access := by
  have hconclude : listing.conclude = id := by
    funext r
    match r with
    | .ok (backend, items) => rfl
    | .error (.failed e hub) => rfl
    | .error (.rejected why) => rfl
    | .error (.foreign fault) => rfl
  rw [Plan.carriedOut, hconclude]
  exact (Dialogue.andThen_done _).symm

end Backends

end HomeAutomation
