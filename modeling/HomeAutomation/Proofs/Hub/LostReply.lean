import HomeAutomation.Proofs.Backend.Trace
import HomeAutomation.Proofs.Hub.Creation

/-!
# When the platform's reply is lost

A backend that gets an order may carry it out and yet not be heard, because the network fails on the
way back or the transport raises an error of a backend itself. To the client that is a failure like
any other, so it goes on to the hub. What this does
to a new automation is told exactly by `create_onBoth_iff`: both backends have it in the end if the
platform carried the order out, its reply was lost, and the hub carries out the second order; in
all other cases at most one of them has gained it.
-/

namespace HomeAutomation

/-- Counts as a failure of the platform: a failure of the network, or an error of a backend. -/
def FaultKind.isCaught : FaultKind → Bool
  | noConnection | timedOut | badUrl | network _ | backend .. => true
  | brokeDown | wrongValue | missingKey | other _ => false

theorem PlatformError.exists_ofFault_eq_told_iff {fault : Fault} :
    (∃ e, ofFault fault = .told e) ↔ fault.kind.isCaught = true := by
  obtain ⟨kind, message⟩ := fault
  cases kind <;> simp [ofFault, Failure.ofFault, FaultKind.isNetwork, FaultKind.isCaught]

/-- There is no response, and the request counts as failed. What became of it is not known. -/
def IsLost (reply : Reply) : Prop :=
  ∃ fault, reply = .error fault ∧ fault.kind.isCaught = true

/-- The platform fails in a way it can tell if its reply is lost or is a refusal. -/
theorem Platform.exists_conclude_eq_told_iff {reply : Reply} :
    (∃ e, conclude reply = .error (.told e)) ↔
      IsLost reply ∨ ∃ response, reply = .ok response ∧ ¬ Backend.platform.Takes response := by
  cases reply with
  | error fault => simp [conclude, IsLost, PlatformError.exists_ofFault_eq_told_iff]
  | ok response =>
      have htakes := exists_check_eq_ok_iff (r := response)
      cases hcheck : check response with
      | ok value => simpa [conclude, IsLost, hcheck] using htakes
      | error e => simpa [conclude, IsLost, hcheck] using htakes

/-- The store has come to hold the automation. -/
def ConfigStore.Gained (before after : ConfigStore) (automation : Json) : Prop :=
  ∃ id, before.lookup id ≠ some automation ∧ after.lookup id = some automation

theorem ConfigStore.not_gained_self (store : ConfigStore) (automation : Json) :
    ¬ Gained store store automation := by
  rintro ⟨id, hbefore, hafter⟩
  exact hbefore hafter

/-- Each backend has a store of its own, which the orders to the other leave alone. The platform
does not carry out what it refuses; of an order without a response it may have carried out
anything. -/
structure KeepApart {σ : Type} (backends : Backends) (access : Access)
    (transport : σ → Request → Reply × σ) (onPlatform onHub : σ → ConfigStore) : Prop where
  onPlatform_refused : ∀ s order response,
    (transport s (backends.platform.requestOf order)).1 = .ok response →
    ¬ Backend.platform.Takes response →
    onPlatform (transport s (backends.platform.requestOf order)).2 = onPlatform s
  onHub_platform : ∀ s order, onHub (transport s (backends.platform.requestOf order)).2 = onHub s
  onPlatform_hub : ∀ s hub order, backends.hub? access = some hub →
    onPlatform (transport s (hub.requestOf order)).2 = onPlatform s

section Lost

variable {σ : Type} {backends : Backends} {access : Access}
  {transport : σ → Request → Reply × σ} {onPlatform onHub : σ → ConfigStore}

namespace KeepApart

theorem onHub_firstTry {α β : Type} (h : KeepApart backends access transport onPlatform onHub)
    (plan : Plan α β) (s : σ) :
    onHub (plan.firstTry backends transport s).2.2 = onHub s := by
  by_cases hurl : backends.platform.url = ""
  · rw [Plan.firstTry, plan.run_primary_of_no_url backends transport s hurl]
  · rw [Plan.firstTry, plan.run_primary_of_url backends transport s hurl]
    exact h.onHub_platform s _

/-- The hub's store moves only by the order that the hub gets after the platform has failed. -/
theorem exists_hop_of_onHub_ne {α β : Type}
    (h : KeepApart backends access transport onPlatform onHub) (plan : Plan α β) (s : σ)
    (hmoved : onHub ((plan.carriedOut backends access).run transport s).2.2 ≠ onHub s) :
    ∃ e hub, (plan.firstTry backends transport s).1 = .error (.told e) ∧
      backends.hub? access = some hub ∧
      ((plan.carriedOut backends access).run transport s).2.2 =
        (transport (plan.firstTry backends transport s).2.2 (hub.requestOf plan.hubOrder)).2 := by
  have hstays {outcome : Except OperationError β}
      (hrun : (plan.carriedOut backends access).run transport s =
        (outcome, (plan.firstTry backends transport s).2)) : False := by
    rw [hrun] at hmoved
    exact hmoved (h.onHub_firstTry plan s)
  rcases plan.run_carriedOut_cases backends access transport s with
    ⟨a, -, hrun⟩ | ⟨fault, -, hrun⟩ | ⟨e, -, -, hrun⟩ | ⟨e, hub, he, hknown, hrun⟩
  · exact (hstays hrun).elim
  · exact (hstays hrun).elim
  · exact (hstays hrun).elim
  · exact ⟨e, hub, he, hknown, congrArg (·.2.2) hrun⟩

/-- Only an order whose reply is lost can fail and yet have been carried out. -/
theorem onPlatform_firstTry_of_told (h : KeepApart backends access transport onPlatform onHub)
    (change : Change) (s : σ) {e : PlatformError}
    (he : (change.plan.firstTry backends transport s).1 = .error (.told e))
    (hmoved : onPlatform (change.plan.firstTry backends transport s).2.2 ≠ onPlatform s) :
    backends.platform.url ≠ "" ∧
      IsLost (transport s (backends.platform.requestOf change.platformOrder)).1 := by
  by_cases hurl : backends.platform.url = ""
  · rw [Plan.firstTry, change.plan.run_primary_of_no_url backends transport s hurl] at hmoved
    exact absurd rfl hmoved
  · rw [Plan.firstTry, change.plan.run_primary_of_url backends transport s hurl] at he hmoved
    have htold := Platform.exists_conclude_eq_told_iff.mp ⟨e, map_eq_error_iff.mp he⟩
    rcases htold with hlost | ⟨response, hresponse, hrefused⟩
    · exact ⟨hurl, hlost⟩
    · exact absurd (h.onPlatform_refused s _ response hresponse hrefused) hmoved

end KeepApart

def Draft.hubOrder (draft : Draft) : Order :=
  ⟨"POST", Hub.configPath draft.key, draft.entryAt draft.key⟩

theorem Draft.hubOrder_create (draft : Draft) (clock : Int) :
    (Change.create clock draft).plan.hubOrder = draft.hubOrder :=
  Change.writeOrder_compile draft clock

def Draft.platformOrder (draft : Draft) : Order :=
  ⟨"POST", "/api/automations", Backends.payload draft draft.compile⟩

/-- When the platform's reply is lost, the hub gets its order as well. -/
theorem state_create_of_lost {draft : Draft} (haccepted : draft.IsAccepted) (clock : Int) (s : σ)
    {hub : Hub} (hknown : backends.hub? access = some hub) (hurl : backends.platform.url ≠ "")
    (hlost : IsLost (transport s (backends.platform.requestOf draft.platformOrder)).1) :
    ((backends.create access clock draft).run transport s).2.2 =
      (transport (transport s (backends.platform.requestOf draft.platformOrder)).2
        (hub.requestOf draft.hubOrder)).2 := by
  have hsend : (Change.create clock draft).IsSendable := (Change.isSendable_iff rfl).mpr haccepted
  obtain ⟨e, he⟩ := Platform.exists_conclude_eq_told_iff.mpr (.inl hlost)
  have htold : (Change.create clock draft).plan.ofPlatform
      (transport s (backends.platform.requestOf draft.platformOrder)).1 = .error (.told e) :=
    map_eq_error_iff.mpr he
  have hfirst := Plan.run_primary_of_url (Change.create clock draft).plan backends transport s hurl
  have hrun := (Change.create clock draft).plan.run_carriedOut_of_hub backends access transport
    (hfirst.trans (congrArg (·, _) htold)) hknown
  rw [← Change.perform_eq_carriedOut backends access hsend, draft.hubOrder_create] at hrun
  exact congrArg (·.2.2) hrun

/-- Of an accepted draft that is created, both backends come to hold the automation exactly if the
platform carries out the order and its reply is lost, and the hub then carries out the order that it
gets. -/
theorem create_onBoth_iff (h : KeepApart backends access transport onPlatform onHub)
    {draft : Draft} (haccepted : draft.IsAccepted) (clock : Int) (s : σ) :
    let after := ((backends.create access clock draft).run transport s).2.2
    let first := transport s (backends.platform.requestOf draft.platformOrder)
    (onPlatform s).Gained (onPlatform after) draft.platformOrder.body ∧
        (onHub s).Gained (onHub after) draft.hubOrder.body ↔
      backends.platform.url ≠ "" ∧ IsLost first.1 ∧
        (onPlatform s).Gained (onPlatform first.2) draft.platformOrder.body ∧
        ∃ hub, backends.hub? access = some hub ∧
          (onHub s).Gained (onHub (transport first.2 (hub.requestOf draft.hubOrder)).2)
            draft.hubOrder.body := by
  intro after first
  have hsend : (Change.create clock draft).IsSendable := (Change.isSendable_iff rfl).mpr haccepted
  constructor
  · rintro ⟨hplatform, hhub⟩
    have hmoved : onHub after ≠ onHub s := fun hsame =>
      (onHub s).not_gained_self _ (hsame ▸ hhub)
    have hhop := h.exists_hop_of_onHub_ne (Change.create clock draft).plan s
    rw [← Change.perform_eq_carriedOut backends access hsend, draft.hubOrder_create] at hhop
    obtain ⟨e, hub, he, hknown, hafter⟩ := hhop hmoved
    change after = _ at hafter
    rw [hafter] at hplatform hhub
    rw [h.onPlatform_hub _ _ _ hknown] at hplatform
    obtain ⟨hurl, hlost⟩ := h.onPlatform_firstTry_of_told (.create clock draft) s he fun hsame =>
      (onPlatform s).not_gained_self _ (hsame ▸ hplatform)
    rw [Plan.firstTry, Plan.run_primary_of_url _ backends transport s hurl] at hplatform hhub
    exact ⟨hurl, hlost, hplatform, hub, hknown, hhub⟩
  · rintro ⟨hurl, hlost, hplatform, hub, hknown, hhub⟩
    have hafter : after = (transport first.2 (hub.requestOf draft.hubOrder)).2 :=
      state_create_of_lost haccepted clock s hknown hurl hlost
    rw [hafter, h.onPlatform_hub _ _ _ hknown]
    exact ⟨hplatform, hhub⟩

end Lost

/-- A platform that carries out every order and is never heard, beside a hub that keeps its
configurations. -/
def Hub.besideUnheard (hub : Hub) (stores : ConfigStore × ConfigStore) (request : Request) :
    Reply × ConfigStore × ConfigStore :=
  if request.showsToken then
    ((hub.keeping stores.2 request).1, stores.1, (hub.keeping stores.2 request).2)
  else (.error ⟨.timedOut, "Read timed out."⟩, stores.1.insert "1" request.body, stores.2)

theorem keepApart_besideUnheard (hub : Hub) (backends : Backends) (access : Access) :
    KeepApart backends access hub.besideUnheard Prod.fst Prod.snd where
  onPlatform_refused s order response hresponse := by
    cases hresponse
  onHub_platform s order := rfl
  onPlatform_hub s other order hknown := rfl

/-- Beside a platform that is not heard, every accepted draft ends up on both backends. -/
theorem gained_besideUnheard {backends : Backends} {access : Access} {hub : Hub}
    (hknown : backends.hub? access = some hub) (hurl : backends.platform.url ≠ "") {draft : Draft}
    (haccepted : draft.IsAccepted) (clock : Int) :
    let after := ((backends.create access clock draft).run hub.besideUnheard (∅, ∅)).2.2
    ConfigStore.Gained ∅ after.1 draft.platformOrder.body ∧
      ConfigStore.Gained ∅ after.2 draft.hubOrder.body := by
  intro after
  have hlost : IsLost (hub.besideUnheard (∅, ∅)
      (backends.platform.requestOf draft.platformOrder)).1 := ⟨_, rfl, rfl⟩
  have hafter := state_create_of_lost haccepted clock (∅, ∅) hknown hurl hlost
  have hkept : after.2 = (∅ : ConfigStore).insert draft.key draft.hubOrder.body := by
    rw [← (keepsConfigs_keeping hub).kept_write ∅ draft.key_ne_empty]
    exact congrArg Prod.snd hafter
  refine ⟨⟨"1", nofun, ?_⟩, ⟨draft.key, nofun, ?_⟩⟩
  · rw [congrArg Prod.fst hafter]
    exact Finmap.lookup_insert _
  · rw [hkept]
    exact Finmap.lookup_insert _

/-- Without a connection to the hub, only the platform can come to hold the evening lights. -/
theorem create_onBoth_iff_eveningLights :
    let backends : Backends := ⟨.ofUrl (some "https://platform.example") (.int 10), .int 10⟩
    let hub : Hub := ⟨"http://hub:8123", "token", .int 10⟩
    let after := ((backends.create ⟨none, .home⟩ 0 .eveningLights).run hub.besideUnheard (∅, ∅)).2.2
    ¬ (ConfigStore.Gained ∅ after.1 Draft.eveningLights.platformOrder.body ∧
      ConfigStore.Gained ∅ after.2 Draft.eveningLights.hubOrder.body) := by
  intro backends hub after hboth
  obtain ⟨-, -, -, other, hknown, -⟩ := (create_onBoth_iff
    (keepApart_besideUnheard hub backends ⟨none, .home⟩) Draft.eveningLights_isAccepted 0
    (∅, ∅)).mp hboth
  cases hknown

/-- With a connection, a platform that is not heard and the hub both come to hold the evening
lights. -/
theorem eveningLights_onBoth :
    let backends : Backends := ⟨.ofUrl (some "https://platform.example") (.int 10), .int 10⟩
    let access : Access := ⟨some ⟨some "http://hub:8123/", none, "token"⟩, .home⟩
    let hub : Hub := ⟨"http://hub:8123", "token", .int 10⟩
    let after := ((backends.create access 0 .eveningLights).run hub.besideUnheard (∅, ∅)).2.2
    Draft.eveningLights.IsAccepted ∧
      KeepApart backends access hub.besideUnheard Prod.fst Prod.snd ∧
      ConfigStore.Gained ∅ after.1 Draft.eveningLights.platformOrder.body ∧
      ConfigStore.Gained ∅ after.2 Draft.eveningLights.hubOrder.body := by
  intro backends access hub
  have hknown : backends.hub? access = some hub := by decide
  have hurl : backends.platform.url ≠ "" := by decide
  have haccepted := Draft.eveningLights_isAccepted
  exact ⟨haccepted, keepApart_besideUnheard hub backends access,
    gained_besideUnheard hknown hurl haccepted 0⟩

end HomeAutomation
