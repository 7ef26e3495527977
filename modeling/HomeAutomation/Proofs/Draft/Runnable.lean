import HomeAutomation.Proofs.Draft.Accepted
import HomeAutomation.Proofs.Native.Command

/-!
# When a draft is accepted

A draft is accepted exactly when something can start or gate it and one of its actions can be
carried out (`isAccepted_iff_isRunnable`). The first is seen on the draft as it was made, and the
second on the commands alone: whether a command has a service depends neither on the entity nor on
the number (`isMapped_iff`).
-/

namespace HomeAutomation

open Text

/-- Whether a command has a service does not depend on the domain and the number. -/
theorem DeviceCommand.isSome_service? (command : DeviceCommand) (domain other : String)
    (value more : Option Number) :
    (command.service? domain value).isSome = (command.service? other more).isSome := by
  cases command <;> rfl

/-- The command has a service, for some domain and some number. -/
def IsMapped (command : String) : Prop :=
  ∃ domain value service, serviceFor? command domain value = some service

/-- A command that has a service has one for every domain and every number. -/
theorem isMapped_iff {command : String} (domain : String) (value : Option Number) :
    IsMapped command ↔ ∃ service, serviceFor? command domain value = some service := by
  constructor
  · rintro ⟨domain', value', service, h⟩
    obtain ⟨known, hknown, hservice⟩ := serviceFor?_eq_some_iff.mp h
    have hsome : (known.service? domain value).isSome = true := by
      rw [known.isSome_service? domain domain' value value', hservice]
      rfl
    obtain ⟨other, hother⟩ := Option.isSome_iff_exists.mp hsome
    exact ⟨other, serviceFor?_eq_some_iff.mpr ⟨known, hknown, hother⟩⟩
  · rintro ⟨service, h⟩
    exact ⟨domain, value, service, h⟩

namespace Action

/-- An action is carried out by the service of its command. -/
theorem compile_eq_ok_iff {action : Action} {native : NativeAction} :
    action.compile = .ok native ↔
      ∃ service,
        serviceFor? action.command action.domain (action.value.map .double) = some service ∧
          native = ⟨service, action.entity⟩ := by
  unfold compile compileCommand domain
  cases serviceFor? action.command (entityDomain action.entity) (action.value.map .double) with
  | none =>
      dsimp only
      split <;> simp
  | some service => simp [eq_comm]

theorem exists_compile_eq_ok_iff {action : Action} :
    (∃ native, action.compile = .ok native) ↔ IsMapped action.command := by
  rw [isMapped_iff action.domain (action.value.map .double)]
  constructor
  · rintro ⟨native, h⟩
    obtain ⟨service, hservice, -⟩ := compile_eq_ok_iff.mp h
    exact ⟨service, hservice⟩
  · rintro ⟨service, hservice⟩
    exact ⟨_, compile_eq_ok_iff.mpr ⟨service, hservice, rfl⟩⟩

end Action

namespace Draft

/-- Something can start or gate the draft, and one of its actions can be carried out. -/
def IsRunnable (draft : Draft) : Prop :=
  (draft.triggers ≠ [] ∨ draft.gateDays ≠ [] ∨ draft.gateClock ≠ "") ∧
    ∃ action ∈ draft.actions, IsMapped action.command

theorem hasGate_iff {draft : Draft} :
    draft.hasGate = true ↔ draft.gateDays ≠ [] ∨ draft.gateClock ≠ "" := by
  simp [hasGate]

theorem nativeActions_ne_nil_iff {draft : Draft} :
    draft.nativeActions ≠ [] ↔ ∃ action ∈ draft.actions, IsMapped action.command := by
  simp only [nativeActions, ne_eq, List.filterMap_eq_nil_iff, Classical.not_forall,
    ← Action.exists_compile_eq_ok_iff]
  constructor
  · rintro ⟨action, hmem, hsome⟩
    cases h : action.compile with
    | ok native => exact ⟨action, hmem, native, h⟩
    | error why => exact absurd (by rw [h]; rfl) hsome
  · rintro ⟨action, hmem, native, h⟩
    exact ⟨action, hmem, by rw [h]; nofun⟩

theorem rejectionAs?_compile_eq_none_iff {draft : Draft} :
    draft.rejectionAs? draft.compile = none ↔ draft.IsRunnable := by
  have hidle : (!!draft.compile.triggers.isEmpty && !draft.hasGate) = true ↔
      ¬ (draft.triggers ≠ [] ∨ draft.hasGate = true) := by
    have htriggers : draft.compile.triggers = [] ↔ draft.triggers = [] := List.map_eq_nil_iff
    simp [htriggers]
  have hnone (h : draft.actions = []) : draft.nativeActions = [] := by
    rw [nativeActions, h, List.filterMap_nil]
  have hactions : draft.compile.actions = draft.nativeActions := rfl
  rw [IsRunnable, ← hasGate_iff, ← nativeActions_ne_nil_iff, rejectionAs?, rejection?, hactions]
  by_cases hstart : draft.triggers ≠ [] ∨ draft.hasGate = true
  · rw [if_neg (by simpa only [hidle, Classical.not_not] using hstart)]
    cases hdraft : draft.actions with
    | nil => simp [hnone hdraft]
    | cons action rest => simp [hstart]
  · rw [if_pos (hidle.mpr hstart)]
    simp [hstart]

/-- A draft is accepted exactly when it can be started or gated and can do something. -/
theorem isAccepted_iff_isRunnable {draft : Draft} : draft.IsAccepted ↔ draft.IsRunnable := by
  rw [← rejectionAs?_compile_eq_none_iff]
  constructor
  · intro h
    exact (checked_eq_ok_iff.mp h.checked_eq).1
  · intro h
    exact ⟨_, checked_eq_ok_iff.mpr ⟨h, rfl⟩⟩

end Draft

end HomeAutomation
