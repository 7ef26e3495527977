import HomeAutomation.Proofs.Native.Event
import HomeAutomation.Text.Numeral

/-!
# Moving one value

A hub that watches values (`HubRules.WatchesValues`) can be shown a change in which one value moves
by one and everything else stands still (`EntityChange.moving`). Such a change passes the one test
that it is made for and no other (`passes_moving`, `not_passes_moving`).
-/

namespace HomeAutomation

/-- A state in which one value is shown and nothing else. -/
def Snapshot.showing (attr value : String) : Snapshot :=
  if attr = DeltaTest.stateName then ⟨value, []⟩ else ⟨"on", [(attr, .str value)]⟩

/-- A change in which one value moves by one in the direction of a test. -/
def EntityChange.moving (entity : String) (test : DeltaTest) : EntityChange :=
  match test.direction with
  | .decrease => ⟨entity, .showing test.attr "1", .showing test.attr "0"⟩
  | .increase => ⟨entity, .showing test.attr "0", .showing test.attr "1"⟩

/-- The hub watches values: a trigger without bounds fires whenever its value changes, and the two
texts are numbers. -/
structure HubRules.WatchesValues (rules : HubRules) : Prop where
  fires : ∀ entity attr event change, event.change = some change → change.entity = entity →
    rules.reading change.before (Trigger.watched attr) ≠
      rules.reading change.after (Trigger.watched attr) →
    rules.Fires (.state entity (Trigger.namedAttribute? attr) none none) event
  number_zero : rules.number (.str "0") = some 0
  number_one : rules.number (.str "1") = some 1

namespace HubRules

variable (rules : HubRules)

theorem reading_showing_self (attr value : String) :
    rules.reading (.showing attr value) attr = (rules.number (.str value)).getD 0 := by
  by_cases h : attr = DeltaTest.stateName
  · simp [reading, Snapshot.value?, Snapshot.showing, h]
  · simp [reading, Snapshot.value?, Snapshot.showing, h, Json.Fields.get?_cons]

theorem reading_showing_of_ne {attr other : String} (hne : other ≠ attr) (value shown : String) :
    rules.reading (.showing attr value) other = rules.reading (.showing attr shown) other := by
  by_cases h : attr = DeltaTest.stateName
  · have hother : other ≠ DeltaTest.stateName := fun heq => hne (heq.trans h.symm)
    simp [reading, Snapshot.value?, Snapshot.showing, h, hother]
  · simp [reading, Snapshot.value?, Snapshot.showing, h, Json.Fields.get?_cons, hne]

namespace WatchesValues

variable {rules} (h : rules.WatchesValues)

include h

theorem movement_moving (entity : String) (test : DeltaTest) :
    test.movement rules (.moving entity test) = 1 := by
  unfold DeltaTest.movement EntityChange.moving
  cases test.direction with
  | increase => simp [reading_showing_self, h.number_zero, h.number_one]
  | decrease => simp [reading_showing_self, h.number_zero, h.number_one]

theorem passes_moving (entity : String) (test : DeltaTest) {event : Event}
    (hevent : event.change = some (.moving entity test)) : test.Passes rules event := by
  refine ⟨_, hevent, ?_⟩
  rw [h.movement_moving]
  exact DeltaTest.exactThreshold_le_one test.attr

/-- No other test passes when one value moves. -/
theorem not_passes_moving (entity : String) {test other : DeltaTest} (hne : test ≠ other)
    {event : Event} (hevent : event.change = some (.moving entity test)) :
    ¬ other.Passes rules event := by
  have hpass := h.passes_moving entity test hevent
  by_cases hattr : test.attr = other.attr
  · have hdirection : test.direction ≠ other.direction := by
      intro heq
      apply hne
      cases test
      cases other
      simp_all
    exact test.not_passes_both rules other hattr hdirection hpass
  · rintro ⟨change, hchange, hother⟩
    obtain rfl := Option.some.inj (hevent.symm.trans hchange)
    have hstill := rules.reading_showing_of_ne (Ne.symm hattr) "0" "1"
    have hmovement : other.movement rules (.moving entity test) = 0 := by
      apply other.movement_eq_zero
      unfold EntityChange.moving
      cases test.direction with
      | increase => exact hstill
      | decrease => exact hstill.symm
    rw [hmovement] at hother
    exact absurd hother (not_le.mpr (DeltaTest.exactThreshold_pos other.attr))

theorem fires_moving (entity attr : String) (direction : Direction) {event : Event}
    (hevent : event.change = some (.moving entity ⟨direction, Trigger.watched attr⟩)) :
    rules.Fires (Trigger.delta entity attr direction).compile event := by
  refine h.fires entity attr event _ hevent ?_ ?_
  · cases direction <;> rfl
  · cases direction with
    | increase => simp [EntityChange.moving, reading_showing_self, h.number_zero, h.number_one]
    | decrease => simp [EntityChange.moving, reading_showing_self, h.number_zero, h.number_one]

end WatchesValues

/-- A hub that fires on changed values and reads whole numbers. -/
def plain : HubRules where
  Fires trigger event :=
    match trigger with
    | .state entity attr none none =>
      ∃ change, event.change = some change ∧ change.entity = entity ∧
        change.before.value? (attr.getD DeltaTest.stateName) ≠
          change.after.value? (attr.getD DeltaTest.stateName)
    | _ => False
  InWindow _ _ := True
  number
    | .int n => some n
    | .str s => (Text.readInt? s.toList).map Int.cast
    | _ => none

theorem watchesValues_plain : plain.WatchesValues where
  fires entity attr event change hchange hentity hreading := by
    have hname :
        (Trigger.namedAttribute? attr).getD DeltaTest.stateName = Trigger.watched attr := by
      unfold Trigger.namedAttribute? Trigger.watched
      by_cases hempty : attr = ""
      · simp [hempty]
      · by_cases hstate : attr = DeltaTest.stateName
        · simp [hstate]
        · simp [hempty, hstate]
    refine ⟨change, hchange, hentity, ?_⟩
    rw [hname]
    intro hvalue
    exact hreading (by rw [reading, reading, hvalue])
  number_zero := by
    have hzero : Text.readInt? ['0'] = some 0 := by decide
    simp [plain, hzero]
  number_one := by
    have hone : Text.readInt? ['1'] = some 1 := by decide
    simp [plain, hone]

end HubRules

end HomeAutomation
