import HomeAutomation.Proofs.Backend.Answer
import HomeAutomation.Proofs.Backend.Key
import HomeAutomation.Proofs.Backend.SingleHop

/-!
# One operation in different circumstances

An operation may run at any time and over any transport, in any state of it. `Circumstances` holds
these three, so that two runs can be compared. The requests of a run fall into those to the platform
and those to the hub, which alone is shown a token. The former are known before the run; of the
latter there are none, or they are known as well (`SingleHop.platformRequests_eq`,
`SingleHop.hubRequests_eq`). The time is no part of any of them (`Change.perform_atTime`).
-/

namespace HomeAutomation

/-- The time in milliseconds, and a transport with its state. -/
structure Circumstances where
  State : Type
  clock : Int
  transport : State → Request → Reply × State
  state : State

namespace Circumstances

variable {α : Type}

def outcome (w : Circumstances) (d : Dialogue α) : α :=
  (d.run w.transport w.state).1

def requests (w : Circumstances) (d : Dialogue α) : List Request :=
  (d.run w.transport w.state).2.1

def exchanges (w : Circumstances) (d : Dialogue α) : List (Request × Reply) :=
  d.exchanges w.transport w.state

theorem outcome_map (w : Circumstances) {β : Type} (d : Dialogue α) (f : α → β) :
    w.outcome (d.map f) = f (w.outcome d) := by
  rw [outcome, Dialogue.run_map, outcome]

theorem requests_map (w : Circumstances) {β : Type} (d : Dialogue α) (f : α → β) :
    w.requests (d.map f) = w.requests d := by
  rw [requests, Dialogue.run_map, requests]

theorem exchanges_map (w : Circumstances) {β : Type} (d : Dialogue α) (f : α → β) :
    w.exchanges (d.map f) = w.exchanges d :=
  Dialogue.exchanges_map w.transport d f w.state

end Circumstances

/-- The request shows a token to whoever gets it. -/
def Request.showsToken (request : Request) : Bool :=
  request.headers.any fun header => header.1 == "Authorization"

@[simp] theorem Platform.showsToken_requestOf (platform : Platform) (order : Order) :
    (platform.requestOf order).showsToken = false := rfl

@[simp] theorem Hub.showsToken_requestOf (hub : Hub) (order : Order) :
    (hub.requestOf order).showsToken = true := rfl

def platformRequests (requests : List Request) : List Request :=
  requests.filter fun request => !request.showsToken

def hubRequests (requests : List Request) : List Request :=
  requests.filter fun request => request.showsToken

namespace SingleHop

variable {α β σ : Type} {plan : Plan α β} {backends : Backends} {access : Access}
  {transport : σ → Request → Reply × σ} {s : σ} {operation : Backends.Operation β}
  {first second : List Request}

/-- Whom a request goes to tells the first attempt from the second. -/
theorem requests_split (h : SingleHop plan backends access transport s operation first second) :
    platformRequests (operation.run transport s).2.1 = first ∧
      hubRequests (operation.run transport s).2.1 = second := by
  rw [h.requests_eq]
  rcases h.first_eq with hfirst | hfirst
  · rcases h.second_eq with hsecond | ⟨hub, -, hsecond⟩
    · simp [platformRequests, hubRequests, hfirst, hsecond]
    · simp [platformRequests, hubRequests, hfirst, hsecond]
  · rcases h.second_eq with hsecond | ⟨hub, -, hsecond⟩
    · simp [platformRequests, hubRequests, hfirst, hsecond]
    · simp [platformRequests, hubRequests, hfirst, hsecond]

theorem platformRequests_eq
    (h : SingleHop plan backends access transport s operation first second) :
    platformRequests (operation.run transport s).2.1 =
      if backends.platform.url = "" then []
      else [backends.platform.requestOf plan.platformOrder] := by
  rw [h.requests_split.1]
  by_cases hurl : backends.platform.url = ""
  · rw [if_pos hurl]
    exact h.first_eq_nil_iff.mpr hurl
  · rw [if_neg hurl]
    exact h.first_eq.resolve_left fun hnil => hurl (h.first_eq_nil_iff.mp hnil)

theorem hubRequests_eq
    (h : SingleHop plan backends access transport s operation first second)
    (hne : hubRequests (operation.run transport s).2.1 ≠ []) :
    hubRequests (operation.run transport s).2.1 =
      (backends.hub? access).toList.map fun hub => hub.requestOf plan.hubOrder := by
  rw [h.requests_split.2] at hne ⊢
  obtain ⟨hub, hhub, hone⟩ := h.second_eq.resolve_left hne
  rw [hone, hhub]
  rfl

theorem hubRequests_ne_nil_iff
    (h : SingleHop plan backends access transport s operation first second) :
    hubRequests (operation.run transport s).2.1 ≠ [] ↔
      (∃ e, (plan.firstTry backends transport s).1 = .error (.told e)) ∧
        ∃ hub, backends.hub? access = some hub := by
  rw [h.requests_split.2]
  exact h.second_ne_nil_iff

end SingleHop

/-- What carrying out a plan comes to: the end of the attempt on the platform, unless that attempt
failed in a way it can tell and there is a hub; then the end of the attempt on the hub. -/
theorem Plan.run_carriedOut_cases {α β σ : Type} (plan : Plan α β) (backends : Backends)
    (access : Access) (transport : σ → Request → Reply × σ) (s : σ) :
    let first := plan.firstTry backends transport s
    let run := (plan.carriedOut backends access).run transport s
    (∃ a, first.1 = .ok a ∧ run = (.ok (plan.settled .platform a), first.2)) ∨
    (∃ fault, first.1 = .error (.foreign fault) ∧ run = (.error (.foreign fault), first.2)) ∨
    (∃ e, first.1 = .error (.told e) ∧ backends.hub? access = none ∧
      run = (plan.exhausted e none, first.2)) ∨
    ∃ e hub, first.1 = .error (.told e) ∧ backends.hub? access = some hub ∧
      let last := transport first.2.2 (hub.requestOf plan.hubOrder)
      run =
        (match plan.ofHub hub last.1 with
          | .ok a => .ok (plan.settled .hub a)
          | .error why => plan.exhausted e (some why),
          first.2.1 ++ [hub.requestOf plan.hubOrder], last.2) := by
  intro first run
  match hfirst : first.1 with
  | .ok a =>
      exact .inl ⟨a, rfl, plan.run_carriedOut_of_ok backends access transport
        (Prod.ext hfirst rfl)⟩
  | .error (.foreign fault) =>
      exact .inr (.inl ⟨fault, rfl, plan.run_carriedOut_of_foreign backends access transport
        (Prod.ext hfirst rfl)⟩)
  | .error (.told e) =>
      cases hhub : backends.hub? access with
      | none =>
          exact .inr (.inr (.inl ⟨e, rfl, rfl, plan.run_carriedOut_of_no_hub backends access
            transport (Prod.ext hfirst rfl) hhub⟩))
      | some hub =>
          exact .inr (.inr (.inr ⟨e, hub, rfl, rfl, plan.run_carriedOut_of_hub backends access
            transport (Prod.ext hfirst rfl) hhub⟩))

namespace Change

def atTime (change : Change) (clock : Int) : Change :=
  match change with
  | create _ draft => create clock draft
  | update _ id draft => update clock id draft
  | delete id => delete id
  | setEnabled id enabled => setEnabled id enabled

/-- A draft is written to the hub in the same way at any time. -/
theorem writeToHub_compile (draft : Draft) (clock other : Int) :
    Backends.writeToHub draft.compile clock = Backends.writeToHub draft.compile other := by
  funext hub
  rw [Backends.writeToHub, Backends.writeToHub, configId_compile, configId_compile]

theorem perform_atTime (change : Change) (clock : Int) (backends : Backends) (access : Access) :
    (change.atTime clock).perform backends access = change.perform backends access := by
  cases change with
  | create other draft =>
      by_cases h : draft.IsAccepted
      · rw [atTime, perform, perform, Backends.create, Backends.create, h.checked_eq]
        simp only [writeToHub_compile draft clock other]
      · obtain ⟨why, hwhy⟩ := Draft.exists_rejection h
        rw [atTime, perform, perform, Backends.create, Backends.create, hwhy]
  | update other id draft =>
      by_cases h : draft.IsAccepted
      · rw [atTime, perform, perform, Backends.update_ofString, Backends.update_ofString,
          (h.withId id).checked_eq]
        simp only [writeToHub_compile (draft.withId id) clock other]
      · obtain ⟨why, hwhy⟩ := Draft.exists_rejection h
        rw [atTime, perform, perform, Backends.update_ofString, Backends.update_ofString,
          Draft.checked_withId_eq_error hwhy id]
  | delete id => rfl
  | setEnabled id enabled => rfl

section Requests

variable {change : Change} (h : change.IsSendable) (backends : Backends) (access : Access)
  (w : Circumstances)
include h

theorem platformRequests_perform :
    platformRequests (w.requests (change.perform backends access)) =
      if backends.platform.url = "" then []
      else [backends.platform.requestOf change.platformOrder] := by
  obtain ⟨first, second, hhop⟩ :=
    change.plan.carriedOut_singleHop backends access w.transport w.state
  rw [perform_eq_carriedOut backends access h]
  exact hhop.platformRequests_eq

theorem hubRequests_perform
    (hne : hubRequests (w.requests (change.perform backends access)) ≠ []) :
    hubRequests (w.requests (change.perform backends access)) =
      (backends.hub? access).toList.map fun hub => hub.requestOf change.hubOrder := by
  obtain ⟨first, second, hhop⟩ :=
    change.plan.carriedOut_singleHop backends access w.transport w.state
  rw [perform_eq_carriedOut backends access h] at hne ⊢
  exact hhop.hubRequests_eq hne

theorem hubRequests_perform_ne_nil_iff :
    hubRequests (w.requests (change.perform backends access)) ≠ [] ↔
      (∃ e, (change.plan.firstTry backends w.transport w.state).1 = .error (.told e)) ∧
        ∃ hub, backends.hub? access = some hub := by
  obtain ⟨first, second, hhop⟩ :=
    change.plan.carriedOut_singleHop backends access w.transport w.state
  rw [perform_eq_carriedOut backends access h]
  exact hhop.hubRequests_ne_nil_iff

end Requests

end Change

end HomeAutomation
