import HomeAutomation.Proofs.Draft.Gate
import HomeAutomation.Proofs.Draft.Shape
import HomeAutomation.Proofs.Native.Clock

/-!
# The window that a configuration is sent with

A condition with a start or an end has both, and they are the window of the clock in the draft. The
end is a time of the day for every clock. The start is one exactly if the clock was: a clock beyond
the day, such as 24:00, is sent as it was read (`Draft.isMinute_window_iff`).
-/

namespace HomeAutomation

open Text

namespace Window

/-- Both ends are times of the day, and the window ends one minute after it starts. -/
def IsMinute (window : Window) : Prop :=
  ∃ t, minuteOfDay? window.start = some t ∧ minuteOfDay? window.stop = some ((t + 1) % 1440)

theorem isMinute_ofClock_iff {s : String} {hour minute : Int}
    (hread : readClock? s = some (hour, minute)) :
    (ofClock hour minute).IsMinute ↔ (0 ≤ hour ∧ hour < 24) ∧ 0 ≤ minute ∧ minute < 60 := by
  rw [← isSome_minuteOfDay?_writeClock_iff hread]
  constructor
  · rintro ⟨t, hstart, -⟩
    exact Option.isSome_of_eq_some hstart
  · intro h
    obtain ⟨t, hstart⟩ := Option.isSome_iff_exists.mp h
    have hagain := readClock?_of_minuteOfDay? hstart
    rw [readClock?_writeClock_of_eq_some hread] at hagain
    obtain ⟨rfl, rfl⟩ := Prod.mk.inj (Option.some.inj hagain)
    obtain ⟨next, hstop, hnext⟩ := exists_minuteOfDay?_stop (t / 60 : Nat) (t % 60 : Nat)
    refine ⟨t, hstart, ?_⟩
    rw [hstop]
    unfold dayMinutes at hnext
    congr 1
    omega

end Window

namespace Condition

/-- Only a time condition with a window has a start or an end, and it has both. -/
theorem exists_window_of_has {condition : Condition} {fields : Json.Fields}
    (hfields : condition.toJson = .obj fields)
    (hlimit : fields.has "after" = true ∨ fields.has "before" = true) :
    ∃ days window, condition = .time days (some window) ∧
      fields.get? "condition" = some (.str "time") ∧
      fields.get? "after" = some (.str window.start) ∧
      fields.get? "before" = some (.str window.stop) := by
  have hnone : ¬ (false = true ∨ false = true) := by decide
  cases condition with
  | template test =>
    obtain rfl := Json.obj.inj hfields
    exact absurd hlimit hnone
  | time days window =>
    obtain rfl := Json.obj.inj hfields
    cases window with
    | none => cases days <;> exact absurd hlimit hnone
    | some window => cases days <;> exact ⟨_, window, rfl, rfl, rfl, rfl⟩

end Condition

namespace Draft

variable {draft : Draft} {fields : Json.Fields}

/-- A condition with a start or an end is a time condition with the window of the clock, which is a
minute of the day exactly if the clock shows a time of the day. -/
theorem isMinute_window_iff (hmem : .obj fields ∈ draft.compile.toFields.listAt "condition")
    (hlimit : fields.has "after" = true ∨ fields.has "before" = true) :
    ∃ (window : Window) (hour minute : Int), fields.get? "condition" = some (.str "time") ∧
      fields.get? "after" = some (.str window.start) ∧
      fields.get? "before" = some (.str window.stop) ∧
      readClock? draft.gateClock = some (hour, minute) ∧
      readClock? window.start = some (hour, minute) ∧
      (∃ t : Nat, minuteOfDay? window.stop = some t ∧
        (t : Int) = (60 * hour + minute + 1) % 1440) ∧
      (window.IsMinute ↔ (0 ≤ hour ∧ hour < 24) ∧ 0 ≤ minute ∧ minute < 60) := by
  rw [listAt_condition, ← map_toJson_conditions] at hmem
  obtain ⟨condition, hcondition, hfields⟩ := List.mem_map.mp hmem
  obtain ⟨days, window, rfl, hkind, hstart, hstop⟩ :=
    Condition.exists_window_of_has hfields hlimit
  obtain ⟨-, -, hwindow⟩ := time_mem_conditions_iff.mp hcondition
  obtain ⟨⟨hour, minute⟩, hread, rfl⟩ := Option.map_eq_some_iff.mp hwindow.symm
  exact ⟨_, hour, minute, hkind, hstart, hstop, hread, readClock?_writeClock_of_eq_some hread,
    Window.exists_minuteOfDay?_stop hour minute, Window.isMinute_ofClock_iff hread⟩

/-- One minute before midnight is sent as a window that ends at midnight. -/
theorem isMinute_window_lightsAt : (lightsAt "23:59").checked = .ok (lightsAt "23:59").compile ∧
    ∃ (fields : Json.Fields) (window : Window),
      .obj fields ∈ (lightsAt "23:59").compile.toFields.listAt "condition" ∧
      (fields.has "after" = true ∨ fields.has "before" = true) ∧
      fields.get? "after" = some (.str window.start) ∧
      fields.get? "before" = some (.str window.stop) ∧ window.IsMinute := by
  have hmem : .obj [("condition", .str "time"), ("after", .str "23:59"), ("before", .str "00:00")] ∈
      (lightsAt "23:59").compile.toFields.listAt "condition" := List.mem_singleton.mpr rfl
  have hclock : readClock? (lightsAt "23:59").gateClock = some (23, 59) := by decide
  obtain ⟨window, hour, minute, -, hstart, hstop, hread, -, -, hminute⟩ :=
    isMinute_window_iff hmem (.inl rfl)
  rw [hclock] at hread
  obtain ⟨rfl, rfl⟩ := Prod.mk.inj (Option.some.inj hread)
  exact ⟨checked_eq_ok_iff.mpr ⟨by rfl, rfl⟩, _, window, hmem, .inl rfl, hstart, hstop,
    hminute.mpr (by decide)⟩

/-- Midnight as the end of the day is sent as a window whose start is no time of the day. -/
theorem not_isMinute_window_lightsAt :
    (lightsAt "24:00").checked = .ok (lightsAt "24:00").compile ∧
      (lightsAt "24:00").compile.toFields.listAt "condition" =
        [.obj [("condition", .str "time"), ("after", .str "24:00"), ("before", .str "00:01")]] ∧
      minuteOfDay? "24:00" = none ∧ ¬ (Window.mk "24:00" "00:01").IsMinute := by
  have hstart : minuteOfDay? "24:00" = none := by decide
  refine ⟨checked_eq_ok_iff.mpr ⟨by rfl, rfl⟩, by rfl, hstart, ?_⟩
  rintro ⟨t, ht, -⟩
  rw [hstart] at ht
  cases ht

end Draft

end HomeAutomation
