import HomeAutomation.Proofs.Backend.Plan

/-!
# Changes

A change is one of the four operations that write. What each backend is asked for it stands in two
tables, `Change.platformOrder` and `Change.hubOrder`. A draft is sent as it is compiled, to the
platform together with the draft itself and to the hub with its id put in.
-/

namespace HomeAutomation

open Text

theorem Backends.update_ofString (backends : Backends) (access : Access) (clock : Int) (id : String)
    (draft : Draft) :
    backends.update access clock id draft =
      match (draft.withId id).checked with
      | .error why => .done (.error (.rejected why))
      | .ok config =>
        accepted (backends.withFallback access
          (backends.platform.update id (payload (draft.withId id) config))
          (writeToHub config clock)) := by
  rw [update, WideText.text?_ofString]
  rfl

namespace Backends

variable (backends : Backends) (access : Access) {id : WideText} (h : id.HasSurrogate)
include h

/-- Under an id with a surrogate, an accepted draft is sent nowhere. -/
theorem update_of_hasSurrogate {draft : Draft} (haccepted : draft.IsAccepted) (clock : Int) :
    backends.update access clock id draft = .done (.error (.foreign (.unencodable id))) := by
  have hnone := (Draft.checked_eq_ok_iff.mp haccepted.checked_eq).1
  have hchecked : { draft with id := id.text? : Draft }.checked = .ok _ :=
    Draft.checked_eq_ok_iff.mpr ⟨hnone, rfl⟩
  rw [update, hchecked]
  simp only [Platform.update, Dialogue.addressed_of_none (WideText.text?_eq_none_iff.mpr h)]
  rfl

theorem delete_of_hasSurrogate :
    backends.delete access id = .done (.error (.foreign (.unencodable id))) := by
  rw [delete, Platform.delete, Dialogue.addressed_of_none (WideText.text?_eq_none_iff.mpr h)]
  rfl

theorem setEnabled_of_hasSurrogate (enabled : Bool) :
    backends.setEnabled access id enabled = .done (.error (.foreign (.unencodable id))) := by
  rw [setEnabled, Platform.setEnabled,
    Dialogue.addressed_of_none (WideText.text?_eq_none_iff.mpr h)]
  rfl

end Backends

/-- A change to the automations. The clock is in milliseconds. -/
inductive Change where
  | create (clock : Int) (draft : Draft)
  | update (clock : Int) (id : String) (draft : Draft)
  | delete (id : String)
  | setEnabled (id : String) (enabled : Bool)

namespace Change

def perform (backends : Backends) (access : Access) : Change → Backends.Operation Outcome
  | create clock draft => backends.create access clock draft
  | update clock id draft => backends.update access clock id draft
  | delete id => backends.delete access id
  | setEnabled id enabled => backends.setEnabled access id enabled

def draft? : Change → Option Draft
  | create _ draft | update _ _ draft => some draft
  | delete _ | setEnabled .. => none

/-- If the change brings a draft along, the draft is accepted. -/
def IsSendable (change : Change) : Prop :=
  ∀ draft, change.draft? = some draft → draft.IsAccepted

theorem isSendable_iff {change : Change} {draft : Draft} (h : change.draft? = some draft) :
    change.IsSendable ↔ draft.IsAccepted := by
  constructor
  · intro hsendable
    exact hsendable draft h
  · intro haccepted other hother
    obtain rfl : draft = other := Option.some.inj (h.symm.trans hother)
    exact haccepted

/-- A change whose draft is rejected ends in the same way whatever the backends. -/
theorem exists_rejection_perform {change : Change} (h : ¬ change.IsSendable) :
    ∃ why, ∀ backends access,
      change.perform backends access = .done (.error (.rejected why)) := by
  cases change with
  | create clock draft =>
      rw [isSendable_iff rfl] at h
      obtain ⟨why, hwhy⟩ := Draft.exists_rejection h
      refine ⟨why, fun backends access => ?_⟩
      rw [perform, Backends.create, hwhy]
  | update clock id draft =>
      rw [isSendable_iff rfl] at h
      obtain ⟨why, hwhy⟩ := Draft.exists_rejection h
      have hwithId := Draft.checked_withId_eq_error hwhy id
      refine ⟨why, fun backends access => ?_⟩
      rw [perform, Backends.update_ofString, hwithId]
  | delete id => exact absurd nofun h
  | setEnabled id enabled => exact absurd nofun h

theorem perform_of_not_isSendable {change : Change} (h : ¬ change.IsSendable)
    (backends : Backends) (access : Access) :
    ∃ why, change.perform backends access = .done (.error (.rejected why)) := by
  obtain ⟨why, hwhy⟩ := exists_rejection_perform h
  exact ⟨why, hwhy backends access⟩

def onPlatform (change : Change) (platform : Platform) : Platform.Attempt Unit :=
  match change with
  | create _ draft => platform.create (Backends.payload draft draft.compile)
  | update _ id draft =>
    platform.update id (Backends.payload (draft.withId id) (draft.withId id).compile)
  | delete id => platform.delete id
  | setEnabled id enabled => platform.setEnabled id enabled

def onHub (change : Change) (hub : Hub) : Hub.Attempt Unit :=
  match change with
  | create clock draft => Backends.writeToHub draft.compile clock hub
  | update clock id draft => Backends.writeToHub (draft.withId id).compile clock hub
  | delete id => hub.delete id
  | setEnabled id enabled => hub.setEnabled id enabled

def platformOrder : Change → Order
  | create _ draft =>
    ⟨"POST", "/api/automations", Backends.payload draft draft.compile⟩
  | update _ id draft =>
    ⟨"PUT", Platform.automationPath id,
      Backends.payload (draft.withId id) (draft.withId id).compile⟩
  | delete id => ⟨"DELETE", Platform.automationPath id, .null⟩
  | setEnabled id enabled =>
    ⟨"POST", Platform.automationPath id ++ (if enabled then "/enable" else "/disable"), .null⟩

def writeOrder (config : NativeAutomation) (clock : Int) : Order :=
  let id := configId config.toFields clock
  ⟨"POST", Hub.configPath id, .obj (config.toFields.insert "id" (.str id))⟩

def hubOrder : Change → Order
  | create clock draft => writeOrder draft.compile clock
  | update clock id draft => writeOrder (draft.withId id).compile clock
  | delete id => ⟨"DELETE", Hub.configPath id, .null⟩
  | setEnabled id enabled =>
    ⟨"POST", "/api/services/automation/" ++ (if enabled then "turn_on" else "turn_off"),
      .obj [("entity_id", .str (automationEntity id))]⟩

/-- The outcome when no backend has made the change: an error for a draft that was not written, an
outcome that says so for the others. -/
def exhausted (change : Change) (e : PlatformError) (hub : Option (Failure HubError)) :
    Except OperationError Outcome :=
  match change with
  | create .. | update .. => .error (.failed e hub)
  | delete _ | setEnabled .. => .ok (.refused e)

theorem onPlatform_eq (change : Change) (platform : Platform) :
    change.onPlatform platform =
      platform.tried change.platformOrder fun reply =>
        (Platform.conclude reply).map fun _ => () := by
  have hmap := Platform.map_tried platform change.platformOrder Platform.conclude fun _ => ()
  cases change with
  | create clock draft => exact hmap
  | update clock id draft => exact (Dialogue.addressed_ofString ..).trans hmap
  | delete id => exact (Dialogue.addressed_ofString ..).trans hmap
  | setEnabled id enabled => exact (Dialogue.addressed_ofString ..).trans hmap

theorem rooted_configPath (id : String) :
    Hub.rooted (Hub.configPath id) = Hub.configPath id :=
  Hub.rooted_append (by decide) (Text.Percent.encode id)

theorem onHub_eq (change : Change) (hub : Hub) :
    change.onHub hub =
      .exchange (hub.requestOf change.hubOrder) fun reply =>
        (hub.conclude reply).map fun _ => () := by
  cases change with
  | create clock draft =>
      rw [onHub, Backends.writeToHub, Hub.upsert, Dialogue.addressed_ofString, Dialogue.perform,
        Hub.request_eq_exchange hub (rooted_configPath _)]
      rfl
  | update clock id draft =>
      rw [onHub, Backends.writeToHub, Hub.upsert, Dialogue.addressed_ofString, Dialogue.perform,
        Hub.request_eq_exchange hub (rooted_configPath _)]
      rfl
  | delete id =>
      rw [onHub, Hub.delete, Dialogue.addressed_ofString, Dialogue.perform,
        Hub.request_eq_exchange hub (rooted_configPath id)]
      rfl
  | setEnabled id enabled =>
      have hrooted (service : String) :
          Hub.rooted ("/api/services/" ++ "automation" ++ "/" ++ service) =
            "/api/services/automation/" ++ service :=
        Hub.rooted_append (by decide) service
      rw [onHub, Hub.setEnabled, Dialogue.perform, Hub.callService, Hub.request, hrooted]
      rfl

def plan (change : Change) : Plan Unit Outcome where
  primary := change.onPlatform
  fallback := change.onHub
  platformOrder := change.platformOrder
  ofPlatform reply := (Platform.conclude reply).map fun _ => ()
  hubOrder := change.hubOrder
  ofHub hub reply := (hub.conclude reply).map fun _ => ()
  settled backend _ := .accepted backend
  exhausted := change.exhausted
  ofPlatform_eq := ⟨fun _ => (), fun _ => rfl⟩
  primary_eq := change.onPlatform_eq
  fallback_eq := change.onHub_eq

section Perform

variable (backends : Backends) (access : Access)

theorem accepted_eq_map {change : Change}
    (h : ∀ e hub, change.exhausted e hub = .error (.failed e hub))
    (operation : Backends.Operation (Backend × Unit)) :
    Backends.accepted operation = operation.map change.plan.conclude := by
  rw [Backends.accepted]
  congr 1
  funext r
  match r with
  | .ok (backend, a) => rfl
  | .error (.failed e hub) => exact (h e hub).symm
  | .error (.rejected why) => rfl
  | .error (.foreign fault) => rfl

theorem bestEffort_eq_map {change : Change}
    (h : ∀ e hub, change.exhausted e hub = .ok (.refused e))
    (primary : Platform.Attempt Unit) (fallback : Hub → Hub.Attempt Unit) :
    backends.bestEffort access primary fallback =
      (backends.withFallback access primary fallback).map change.plan.conclude := by
  rw [Backends.bestEffort]
  congr 1
  funext r
  match r with
  | .ok (backend, a) => rfl
  | .error (.failed e hub) => exact (h e hub).symm
  | .error (.rejected why) => rfl
  | .error (.foreign fault) => rfl

/-- A change whose draft is accepted carries out its plan. -/
theorem perform_eq_carriedOut {change : Change} (h : change.IsSendable) :
    change.perform backends access = change.plan.carriedOut backends access := by
  cases change with
  | create clock draft =>
      have hchecked := (h draft rfl).checked_eq
      have hexhausted (e : PlatformError) (hub : Option (Failure HubError)) :
          (create clock draft).exhausted e hub = .error (.failed e hub) := rfl
      rw [perform, Backends.create, hchecked]
      exact accepted_eq_map hexhausted _
  | update clock id draft =>
      have hchecked := ((h draft rfl).withId id).checked_eq
      have hexhausted (e : PlatformError) (hub : Option (Failure HubError)) :
          (update clock id draft).exhausted e hub = .error (.failed e hub) := rfl
      rw [perform, Backends.update_ofString, hchecked]
      exact accepted_eq_map hexhausted _
  | delete id =>
      exact bestEffort_eq_map backends access (fun _ _ => rfl) _ _
  | setEnabled id enabled =>
      simp only [perform, Backends.setEnabled, Dialogue.addressed_ofString]
      exact bestEffort_eq_map backends access (fun _ _ => rfl) _ _

/-- Without an address of the platform, a change is one request to the hub. -/
theorem run_perform_of_no_url {σ : Type} (transport : σ → Request → Reply × σ) (s : σ)
    {change : Change} (h : change.IsSendable) (hurl : backends.platform.url = "") {hub : Hub}
    (hhub : backends.hub? access = some hub) :
    (change.perform backends access).run transport s =
      (match hub.conclude (transport s (hub.requestOf change.hubOrder)).1 with
        | .ok _ => .ok (.accepted .hub)
        | .error why => change.exhausted .notConfigured (some why),
        [hub.requestOf change.hubOrder], (transport s (hub.requestOf change.hubOrder)).2) := by
  have hprimary := change.plan.run_primary_of_no_url backends transport s hurl
  rw [perform_eq_carriedOut backends access h,
    change.plan.run_carriedOut_of_hub backends access transport hprimary hhub]
  simp only [plan, List.nil_append]
  cases hub.conclude (transport s (hub.requestOf change.hubOrder)).1 with
  | ok value => rfl
  | error why => rfl

end Perform

end Change

end HomeAutomation
