import HomeAutomation.Draft.Acceptance

/-!
# Accepted drafts

A draft is accepted when checking it gives a configuration, which is then the one it is compiled to
(`IsAccepted.checked_eq`). The id of a draft has no part in that.
-/

namespace HomeAutomation

namespace Draft

/-- The draft under another id. -/
def withId (draft : Draft) (id : String) : Draft :=
  { draft with id := some id }

/-- Whether a draft is rejected does not depend on its id. -/
theorem rejectionAs?_withId (draft : Draft) (id : String) :
    (draft.withId id).rejectionAs? (draft.withId id).compile =
      draft.rejectionAs? draft.compile := rfl

theorem checked_eq_ok_iff {draft : Draft} {config : NativeAutomation} :
    draft.checked = .ok config ↔
      draft.rejectionAs? draft.compile = none ∧ draft.compile = config := by
  unfold checked
  cases h : draft.rejectionAs? draft.compile with
  | none => simp [h]
  | some why => simp [h]

theorem checked_eq_error_iff {draft : Draft} {why : Rejection} :
    draft.checked = .error why ↔ draft.rejectionAs? draft.compile = some why := by
  unfold checked
  cases h : draft.rejectionAs? draft.compile with
  | none => simp [h]
  | some other => simp [h]

/-- The draft becomes an automation. -/
def IsAccepted (draft : Draft) : Prop :=
  ∃ config, draft.checked = .ok config

theorem IsAccepted.checked_eq {draft : Draft} (h : draft.IsAccepted) :
    draft.checked = .ok draft.compile := by
  obtain ⟨config, hconfig⟩ := h
  rw [hconfig, (checked_eq_ok_iff.mp hconfig).2]

theorem IsAccepted.withId {draft : Draft} (h : draft.IsAccepted) (id : String) :
    (draft.withId id).IsAccepted := by
  have hnone := (checked_eq_ok_iff.mp h.checked_eq).1
  exact ⟨_, checked_eq_ok_iff.mpr ⟨(rejectionAs?_withId draft id).trans hnone, rfl⟩⟩

theorem exists_rejection {draft : Draft} (h : ¬ draft.IsAccepted) :
    ∃ why, draft.checked = .error why := by
  cases hchecked : draft.checked with
  | ok config => exact absurd ⟨config, hchecked⟩ h
  | error why => exact ⟨why, rfl⟩

theorem checked_withId_eq_error {draft : Draft} {why : Rejection} (h : draft.checked = .error why)
    (id : String) : (draft.withId id).checked = .error why := by
  have hwhy := checked_eq_error_iff.mp h
  exact checked_eq_error_iff.mpr ((rejectionAs?_withId draft id).trans hwhy)

/-- A light that goes on at seven in the evening. -/
def eveningLights : Draft where
  id := none
  title := ⟨"Evening lights", by decide⟩
  description := none
  mode := none
  triggers := [.time "19:00" none]
  actions := [⟨"light.living_room", "light/turn_on", none⟩]
  days := none
  clock := none

theorem eveningLights_isAccepted : eveningLights.IsAccepted :=
  ⟨_, checked_eq_ok_iff.mpr ⟨by rfl, rfl⟩⟩

end Draft

end HomeAutomation
