import HomeAutomation.Proofs.Backend.Repetition
import HomeAutomation.Proofs.Draft.Wire

/-!
# What the platform is sent for a draft

The platform is sent a draft as it was written together with the configuration that it was compiled
to. The two are made in different ways: the configuration is compiled from the draft at hand, while
the draft goes through its JSON without the nulls, in an update under an id that nobody has
validated. They agree all the same, since the draft is read back from that JSON
(`Draft.read_toWire`): whoever reads the draft and compiles it again gets the configuration
(`Json.IsSelfConsistent`).
-/

namespace HomeAutomation

/-- The value is a draft with its configuration: the draft can be read and is accepted, and
compiling what was read gives the configuration. -/
def Json.IsSelfConsistent (payload : Json) : Prop :=
  ∃ (sent config : Json) (draft : Draft), payload = .obj [("draft", sent), ("haConfig", config)] ∧
    Draft.read sent = .valid draft ∧ draft.IsAccepted ∧ draft.compile.toJson = config

theorem Draft.IsAccepted.isSelfConsistent_payload {draft : Draft} (h : draft.IsAccepted) :
    (Backends.payload draft draft.compile).IsSelfConsistent :=
  ⟨draft.toWire, draft.compile.toJson, draft, rfl, draft.read_toWire, h, rfl⟩

/-- Of the operation the platform, if it has an address, is sent one payload that agrees with
itself. -/
def SendsSelfConsistent (backends : Backends) (w : Circumstances)
    (operation : Backends.Operation Outcome) : Prop :=
  ∃ payload : Json, payload.IsSelfConsistent ∧
    (platformRequests (w.requests operation)).map Request.body =
      if backends.platform.url = "" then [] else [payload]

/-- When an accepted draft is created, or replaces an automation under whatever id, the platform can
compile the draft that it is sent and gets the configuration that it is sent. -/
theorem payload_selfConsistent {draft : Draft} (h : draft.IsAccepted) (backends : Backends)
    (access : Access) (w : Circumstances) :
    SendsSelfConsistent backends w (backends.create access w.clock draft) ∧
      ∀ id : String, SendsSelfConsistent backends w (backends.update access w.clock id draft) := by
  constructor
  · have hsend : (Change.create w.clock draft).IsSendable := (Change.isSendable_iff rfl).mpr h
    exact ⟨_, h.isSelfConsistent_payload, Change.bodies_perform backends access w hsend⟩
  · intro id
    have hsend : (Change.update w.clock id draft).IsSendable := (Change.isSendable_iff rfl).mpr h
    exact ⟨_, (h.withId id).isSelfConsistent_payload,
      Change.bodies_perform backends access w hsend⟩

/-- Also under the empty id, which the draft keeps and the configuration does not. -/
theorem payload_selfConsistent_emptyId :
    let backends : Backends := ⟨.ofUrl (some "https://platform.example") (.int 10), .int 10⟩
    let w : Circumstances := ⟨Unit, 0, fun _ _ => (.ok ⟨200, ""⟩, ()), ()⟩
    let draft := Draft.eveningLights.withId ""
    SendsSelfConsistent backends w (backends.update ⟨none, .home⟩ 0 "" Draft.eveningLights) ∧
      draft.compile.id = none ∧ Draft.read draft.toWire = .valid draft := by
  intro backends w draft
  have hsent :=
    (payload_selfConsistent Draft.eveningLights_isAccepted backends ⟨none, .home⟩ w).2 ""
  exact ⟨hsent, rfl, draft.read_toWire⟩

end HomeAutomation
