import HomeAutomation.Draft.Compile
import Mathlib.Algebra.Order.Field.Rat
import Mathlib.Tactic.Linarith

/-!
# What a hub does with a configuration

On an event a configuration runs if one of its triggers fires and all its conditions hold
(`NativeAutomation.RunsOn`). A delta test looks at the states before and after the change that fired
the trigger, whatever entity that was (`DeltaTest.Passes`); a value that the entity does not have
reads as zero. Numbers are taken exactly.

When triggers fire, which times are in a window and which values are numbers is left to the hub
(`HubRules`).
-/

namespace HomeAutomation

/-- The state of an entity at one time. -/
structure Snapshot where
  state : String
  attributes : Json.Fields

/-- A change of an entity. -/
structure EntityChange where
  entity : String
  before : Snapshot
  after : Snapshot

/-- Something happens on the hub at a minute of a day; perhaps an entity changes. -/
structure Event where
  day : Weekday
  minute : Nat
  change : Option EntityChange

/-- What the hub decides by itself. -/
structure HubRules where
  /-- The trigger fires on the event. -/
  Fires : NativeTrigger → Event → Prop
  /-- The minute of the day lies in the window. -/
  InWindow : Window → Nat → Prop
  /-- The number that a value stands for, if it is one. -/
  number : Json → Option ℚ

/-- The value that a state shows under a name, if any. -/
def Snapshot.value? (snapshot : Snapshot) (attr : String) : Option Json :=
  if attr = DeltaTest.stateName then some (.str snapshot.state) else snapshot.attributes.get? attr

/-- The number that a state shows under a name, zero if there is none. -/
def HubRules.reading (rules : HubRules) (snapshot : Snapshot) (attr : String) : ℚ :=
  ((snapshot.value? attr).bind rules.number).getD 0

namespace DeltaTest

variable (rules : HubRules)

/-- How far the value has to move, as an exact number. -/
def exactThreshold (attr : String) : ℚ :=
  if isTemperature attr then 1 else 1 / 100

theorem exactThreshold_pos (attr : String) : 0 < exactThreshold attr := by
  unfold exactThreshold
  split
  · norm_num
  · norm_num

/-- By how much the value moves in the direction of the test. -/
def movement (test : DeltaTest) (change : EntityChange) : ℚ :=
  let before := rules.reading change.before test.attr
  let after := rules.reading change.after test.attr
  match test.direction with
  | .decrease => before - after
  | .increase => after - before

theorem movement_eq_zero (test : DeltaTest) {change : EntityChange}
    (h : rules.reading change.before test.attr = rules.reading change.after test.attr) :
    test.movement rules change = 0 := by
  unfold movement
  cases test.direction with
  | increase => simp [h]
  | decrease => simp [h]

/-- The event is a change in which the value moves far enough. -/
def Passes (test : DeltaTest) (event : Event) : Prop :=
  ∃ change, event.change = some change ∧ exactThreshold test.attr ≤ test.movement rules change

theorem not_passes_of_no_change (test : DeltaTest) {event : Event} (h : event.change = none) :
    ¬ test.Passes rules event := by
  rintro ⟨change, hchange, _⟩
  exact absurd (h.symm.trans hchange) nofun

/-- A value does not move both ways at once. -/
theorem not_passes_both (test other : DeltaTest) (hattr : test.attr = other.attr)
    (hdirection : test.direction ≠ other.direction) {event : Event}
    (h : test.Passes rules event) : ¬ other.Passes rules event := by
  rintro ⟨change, hchange, hother⟩
  obtain ⟨_, hsame, htest⟩ := h
  obtain rfl := Option.some.inj (hchange.symm.trans hsame)
  have hpos := exactThreshold_pos other.attr
  have hopposite : test.movement rules change = -other.movement rules change := by
    unfold movement
    rw [hattr]
    cases htestDirection : test.direction with
    | increase =>
        cases hotherDirection : other.direction with
        | increase => exact absurd (htestDirection.trans hotherDirection.symm) hdirection
        | decrease => simp
    | decrease =>
        cases hotherDirection : other.direction with
        | increase => simp
        | decrease => exact absurd (htestDirection.trans hotherDirection.symm) hdirection
  rw [hattr, hopposite] at htest
  linarith

theorem exactThreshold_le_one (attr : String) : exactThreshold attr ≤ 1 := by
  unfold exactThreshold
  split
  · exact le_rfl
  · norm_num

end DeltaTest

/-- The condition holds on an event. -/
def Condition.Holds (rules : HubRules) (condition : Condition) (event : Event) : Prop :=
  match condition with
  | time days window =>
    (days = [] ∨ event.day ∈ days) ∧ ∀ w, window = some w → rules.InWindow w event.minute
  | template test => test.Passes rules event

/-- On the event a trigger fires and all conditions hold. -/
def NativeAutomation.RunsOn (rules : HubRules) (config : NativeAutomation) (event : Event) : Prop :=
  (∃ trigger ∈ config.triggers, rules.Fires trigger event) ∧
    ∀ condition ∈ config.conditions, condition.Holds rules event

end HomeAutomation
