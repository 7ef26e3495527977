import HomeAutomation.Proofs.Draft.Runnable
import HomeAutomation.Proofs.Native.Describable

/-!
# What starts or gates an accepted draft

A configuration is started by its triggers, and it is gated by a time condition that names the days
or both ends of a window. An accepted draft asks for one or the other, but a clock that cannot be
read leaves a time condition without any limit. That is the one way in which an accepted draft is
neither started nor gated (`isStartedOrGated_checked_iff`).
-/

namespace HomeAutomation

open Json

/-- A time condition that names the days or both ends of a window. -/
def Condition.IsGate (condition : Json) : Prop :=
  ∃ fields : Fields, condition = .obj fields ∧ fields.get? "condition" = some (.str "time") ∧
    (fields.has "weekday" = true ∨ fields.has "after" = true ∧ fields.has "before" = true)

/-- The configuration has a trigger, or a time condition that limits it. -/
def IsStartedOrGated (config : Fields) : Prop :=
  (∃ trigger rest, config.field "trigger" = .arr (trigger :: rest)) ∨
    ∃ conditions, config.field "condition" = .arr conditions ∧
      ∃ condition ∈ conditions, Condition.IsGate condition

namespace Condition

theorem isGate_time_iff {days : List Weekday} {window : Option Window} :
    IsGate (time days window).toJson ↔ days ≠ [] ∨ window ≠ none := by
  constructor
  · rintro ⟨fields, hfields, -, hlimits⟩
    obtain rfl := Json.obj.inj hfields
    cases days with
    | nil =>
        cases window with
        | none => exact absurd hlimits (by decide)
        | some window => exact .inr (Option.some_ne_none window)
    | cons day rest => exact .inl (List.cons_ne_nil day rest)
  · intro hlimits
    refine ⟨_, rfl, rfl, ?_⟩
    cases days with
    | nil =>
        cases window with
        | none => simp at hlimits
        | some window => exact .inr ⟨rfl, rfl⟩
    | cons day rest => exact .inl rfl

theorem not_isGate_template (test : DeltaTest) : ¬ IsGate (template test).toJson := by
  rintro ⟨fields, hfields, hkind, -⟩
  obtain rfl := Json.obj.inj hfields
  have htext : "template" = "time" := Json.str.inj (Option.some.inj hkind)
  exact absurd htext (by decide)

end Condition

namespace NativeAutomation

variable {config : NativeAutomation}

theorem isStartedOrGated_iff :
    IsStartedOrGated config.toFields ↔
      config.triggers ≠ [] ∨
        ∃ days window, .time days window ∈ config.conditions ∧ (days ≠ [] ∨ window ≠ none) := by
  rw [IsStartedOrGated, field_trigger, field_condition]
  refine or_congr ?_ ?_
  · cases config.triggers <;> simp
  · constructor
    · rintro ⟨written, hwritten, condition, hmem, hgate⟩
      split at hwritten
      · cases hwritten
      · obtain rfl := Json.arr.inj hwritten
        obtain ⟨source, hsource, rfl⟩ := List.mem_map.mp hmem
        cases source with
        | time days window => exact ⟨days, window, hsource, Condition.isGate_time_iff.mp hgate⟩
        | template test => exact absurd hgate (Condition.not_isGate_template test)
    · rintro ⟨days, window, hmem, hlimits⟩
      rw [if_neg (List.ne_nil_of_mem hmem)]
      exact ⟨_, rfl, _, List.mem_map_of_mem hmem, Condition.isGate_time_iff.mpr hlimits⟩

end NativeAutomation

namespace Draft

variable {draft : Draft} {config : NativeAutomation}

theorem time_mem_conditions_iff {days : List Weekday} {window : Option Window} :
    .time days window ∈ draft.conditions ↔
      draft.hasGate = true ∧ days = draft.gateDays ∧ window = Window.ofText? draft.gateClock := by
  by_cases hgate : draft.hasGate = true
  · simp [conditions, gate?_eq, hgate]
  · simp [conditions, gate?_eq, hgate]

/-- What the draft asks for starts or gates it: a trigger, a day, or a clock that can be read. -/
theorem isStartedOrGated_compile_iff :
    IsStartedOrGated draft.compile.toFields ↔
      draft.triggers ≠ [] ∨ draft.gateDays ≠ [] ∨ readClock? draft.gateClock ≠ none := by
  have htriggers : draft.compile.triggers = [] ↔ draft.triggers = [] := List.map_eq_nil_iff
  have hclock : Window.ofText? draft.gateClock = none ↔ readClock? draft.gateClock = none :=
    Option.map_eq_none_iff
  rw [NativeAutomation.isStartedOrGated_iff, ne_eq, htriggers, ne_eq, ne_eq, ne_eq, ← hclock]
  refine or_congr_right ⟨?_, ?_⟩
  · rintro ⟨days, window, hmem, hlimits⟩
    obtain ⟨-, hdays, hwindow⟩ := time_mem_conditions_iff.mp hmem
    rwa [hdays, hwindow] at hlimits
  · intro hlimits
    -- A clock that can be read is not empty, so what limits the draft also gates it.
    refine ⟨_, _, time_mem_conditions_iff.mpr ⟨hasGate_iff.mpr ?_, rfl, rfl⟩, hlimits⟩
    refine hlimits.imp_right fun hwindow hempty => hwindow ?_
    rw [hempty]
    rfl

/-- An accepted draft that nothing starts or gates is left with a time condition without a limit. -/
theorem conditions_of_not_isStartedOrGated (h : draft.IsAccepted)
    (hidle : ¬ IsStartedOrGated draft.compile.toFields) :
    draft.triggers = [] ∧ draft.conditions = [.time [] none] := by
  simp only [isStartedOrGated_compile_iff, not_or, ne_eq, Classical.not_not] at hidle
  obtain ⟨htriggers, hdays, hclock⟩ := hidle
  obtain ⟨hasked, -⟩ := isAccepted_iff_isRunnable.mp h
  have hgate : draft.hasGate = true :=
    hasGate_iff.mpr (hasked.resolve_left fun hsome => hsome htriggers)
  have hwindow : Window.ofText? draft.gateClock = none := Option.map_eq_none_iff.mpr hclock
  refine ⟨htriggers, ?_⟩
  rw [conditions, gate?_eq, if_pos hgate, hdays, hwindow, htriggers]
  rfl

/-- An accepted draft is started or gated exactly when it has a trigger, names a day, or has a clock
that can be read. Otherwise it has no trigger, and one time condition without a limit. -/
theorem isStartedOrGated_checked_iff (h : draft.checked = .ok config) :
    (IsStartedOrGated config.toFields ↔
      draft.triggers ≠ [] ∨ draft.gateDays ≠ [] ∨ readClock? draft.gateClock ≠ none) ∧
    (¬ IsStartedOrGated config.toFields →
      config.toFields.field "trigger" = .arr [] ∧
        config.toFields.field "condition" = .arr [.obj [("condition", .str "time")]]) := by
  obtain ⟨-, rfl⟩ := checked_eq_ok_iff.mp h
  refine ⟨isStartedOrGated_compile_iff, fun hidle => ?_⟩
  obtain ⟨htriggers, hconditions⟩ := conditions_of_not_isStartedOrGated ⟨_, h⟩ hidle
  rw [NativeAutomation.field_trigger, NativeAutomation.field_condition]
  simp only [compile, htriggers, hconditions]
  exact ⟨rfl, rfl⟩

/-- A light that may go on at a time of day, and that nothing else starts. -/
def lightsAt (clock : String) : Draft where
  id := none
  title := ⟨"Lights", by decide⟩
  description := none
  mode := none
  triggers := []
  actions := [⟨"light.kitchen", "light/turn_on", none⟩]
  days := none
  clock := some clock

theorem isStartedOrGated_lightsAt :
    (lightsAt "19:00").checked = .ok (lightsAt "19:00").compile ∧
      readClock? (lightsAt "19:00").gateClock = some (19, 0) ∧
      IsStartedOrGated (lightsAt "19:00").compile.toFields := by
  have hchecked : (lightsAt "19:00").checked = .ok (lightsAt "19:00").compile :=
    checked_eq_ok_iff.mpr ⟨by rfl, rfl⟩
  have hclock : readClock? (lightsAt "19:00").gateClock = some (19, 0) := by decide
  refine ⟨hchecked, hclock, (isStartedOrGated_checked_iff hchecked).1.mpr (.inr (.inr ?_))⟩
  rw [hclock]
  exact Option.some_ne_none _

/-- A clock that cannot be read is enough for a draft to be accepted, though nothing starts or gates
it then. -/
theorem not_isStartedOrGated_lightsAt :
    (lightsAt "soon").checked = .ok (lightsAt "soon").compile ∧
      (lightsAt "soon").compile.toFields.field "trigger" = .arr [] ∧
      (lightsAt "soon").compile.toFields.field "condition" =
        .arr [.obj [("condition", .str "time")]] ∧
      ¬ IsStartedOrGated (lightsAt "soon").compile.toFields := by
  refine ⟨checked_eq_ok_iff.mpr ⟨by rfl, rfl⟩, by rfl, by rfl, ?_⟩
  rw [isStartedOrGated_compile_iff]
  decide

end Draft

end HomeAutomation
