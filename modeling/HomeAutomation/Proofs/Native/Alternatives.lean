import HomeAutomation.Proofs.Draft.Accepted
import HomeAutomation.Proofs.Native.Moving

/-!
# Triggers as alternatives

Any one trigger of a draft is meant to start it, so a draft should run on every event on which it
would run with one of its triggers alone (`Draft.only`). But each delta trigger leaves its test in
the conditions of the whole draft, and conditions have to hold together. On such an event the draft
runs exactly if the tests of all its triggers pass (`runsOn_iff_of_runsOn_only`).

The draft is safe when its triggers share one test or none (`runsOn_of_runsOn_only`), and delta
triggers alone are safe in no other case (`triggersAlternate_iff`). A delta trigger next to one that
is not fired by a change stops the latter for good (`not_runsOn_of_no_change`), and delta triggers
in both directions stop the whole draft (`not_runsOn_of_opposite`).
-/

namespace HomeAutomation

namespace Draft

variable (rules : HubRules) {draft : Draft} {event : Event}

/-- The same draft with one trigger only. -/
def only (draft : Draft) (trigger : Trigger) : Draft :=
  { draft with triggers := [trigger] }

/-- The gate of the draft is open. -/
def IsOpen (draft : Draft) (event : Event) : Prop :=
  ∀ condition, draft.gate? = some condition → condition.Holds rules event

/-- Some trigger of the draft fires. -/
def Fires (draft : Draft) (event : Event) : Prop :=
  ∃ trigger ∈ draft.triggers, rules.Fires trigger.compile event

/-- The tests of all triggers pass. -/
def PassesTests (draft : Draft) (event : Event) : Prop :=
  ∀ trigger ∈ draft.triggers, ∀ test, trigger.test? = some test → test.Passes rules event

/-- The conditions of a draft are its gate and the tests of its triggers, all together. -/
theorem holds_conditions_iff :
    (∀ condition ∈ draft.conditions, condition.Holds rules event) ↔
      draft.IsOpen rules event ∧ draft.PassesTests rules event := by
  constructor
  · intro h
    constructor
    · intro condition hgate
      apply h
      rw [conditions, hgate]
      exact List.mem_append_left _ List.mem_cons_self
    · intro trigger hmem test htest
      refine h (.template test) (List.mem_append_right _ ?_)
      exact List.mem_map_of_mem (List.mem_filterMap.mpr ⟨trigger, hmem, htest⟩)
  · rintro ⟨hopen, hpass⟩ condition hmem
    rcases List.mem_append.mp hmem with hgate | htemplate
    · exact hopen condition (Option.mem_toList.mp hgate)
    · obtain ⟨test, htest, rfl⟩ := List.mem_map.mp htemplate
      obtain ⟨trigger, htrigger, hsome⟩ := List.mem_filterMap.mp htest
      exact hpass trigger htrigger test hsome

/-- A compiled draft runs when a trigger fires at the open gate and all tests pass. -/
theorem runsOn_compile_iff :
    draft.compile.RunsOn rules event ↔
      draft.Fires rules event ∧ draft.IsOpen rules event ∧ draft.PassesTests rules event := by
  have htriggers : (∃ trigger ∈ draft.compile.triggers, rules.Fires trigger event) ↔
      draft.Fires rules event := by
    rw [compile]
    simp only [List.mem_map, Fires]
    constructor
    · rintro ⟨_, ⟨trigger, hmem, rfl⟩, hfires⟩
      exact ⟨trigger, hmem, hfires⟩
    · rintro ⟨trigger, hmem, hfires⟩
      exact ⟨_, ⟨trigger, hmem, rfl⟩, hfires⟩
  rw [NativeAutomation.RunsOn, htriggers, ← holds_conditions_iff]
  rfl

theorem runsOn_only_iff (trigger : Trigger) :
    (draft.only trigger).compile.RunsOn rules event ↔
      rules.Fires trigger.compile event ∧ draft.IsOpen rules event ∧
        ∀ test, trigger.test? = some test → test.Passes rules event := by
  have hfires : (draft.only trigger).Fires rules event ↔ rules.Fires trigger.compile event := by
    simp [Fires, only]
  have hpass : (draft.only trigger).PassesTests rules event ↔
      ∀ test, trigger.test? = some test → test.Passes rules event := by
    simp [PassesTests, only]
  rw [runsOn_compile_iff, hfires, hpass]
  exact Iff.rfl

/-- Where a draft would run with one of its triggers alone, it runs exactly if the tests of all its
triggers pass. -/
theorem runsOn_iff_of_runsOn_only {trigger : Trigger} (hmem : trigger ∈ draft.triggers)
    (h : (draft.only trigger).compile.RunsOn rules event) :
    draft.compile.RunsOn rules event ↔ draft.PassesTests rules event := by
  obtain ⟨hfires, hopen, _⟩ := (runsOn_only_iff rules trigger).mp h
  rw [runsOn_compile_iff]
  constructor
  · rintro ⟨_, _, hpass⟩
    exact hpass
  · intro hpass
    exact ⟨⟨trigger, hmem, hfires⟩, hopen, hpass⟩

end Draft

/-- A light gets brighter on a Monday morning. -/
def Event.brighter : Event where
  day := .monday
  minute := 420
  change := some ⟨"light.desk", ⟨"on", [("brightness", .int 10)]⟩,
    ⟨"on", [("brightness", .int 200)]⟩⟩

/-- A fan that starts when a lamp gets brighter or a room gets cooler. -/
def Draft.brighterOrCooler : Draft where
  id := none
  title := ⟨"Fan", by decide⟩
  description := none
  mode := none
  triggers := [.delta "light.desk" "brightness" .increase,
    .delta "climate.room" "current_temperature" .decrease]
  actions := [⟨"switch.fan", "light/turn_on", none⟩]
  days := none
  clock := none

namespace Draft

theorem runsOn_brighterOrCooler_only :
    (brighterOrCooler.only (.delta "light.desk" "brightness" .increase)).compile.RunsOn .plain
      .brighter := by
  rw [runsOn_only_iff]
  refine ⟨⟨_, rfl, rfl, ?_⟩, ?_, ?_⟩
  · simp [Snapshot.value?, DeltaTest.stateName, Json.Fields.get?_cons, Trigger.namedAttribute?]
  · intro condition hgate
    have hnone : brighterOrCooler.gate? = none := rfl
    rw [hnone] at hgate
    cases hgate
  · intro test htest
    obtain rfl := Option.some.inj htest
    refine ⟨_, rfl, ?_⟩
    have hthreshold : DeltaTest.exactThreshold (Trigger.watched "brightness") = 1 / 100 := rfl
    have hmovement : DeltaTest.movement .plain ⟨.increase, Trigger.watched "brightness"⟩
        ⟨"light.desk", ⟨"on", [("brightness", .int 10)]⟩, ⟨"on", [("brightness", .int 200)]⟩⟩ =
        200 - 10 := rfl
    rw [hthreshold, hmovement]
    norm_num

/-- The lamp alone would start the fan, so the fan starts exactly if the room gets cooler too. -/
theorem runsOn_iff_brighterOrCooler :
    .delta "light.desk" "brightness" .increase ∈ brighterOrCooler.triggers ∧
      (brighterOrCooler.compile.RunsOn .plain .brighter ↔
        brighterOrCooler.PassesTests .plain .brighter) := by
  have hmem : .delta "light.desk" "brightness" .increase ∈ brighterOrCooler.triggers :=
    List.mem_cons_self
  exact ⟨hmem, runsOn_iff_of_runsOn_only .plain hmem runsOn_brighterOrCooler_only⟩

/-- The lamp alone would start the fan, but the lamp has no temperature that gets lower, so the fan
does not start. -/
theorem not_runsOn_brighterOrCooler :
    brighterOrCooler.IsAccepted ∧
      .delta "light.desk" "brightness" .increase ∈ brighterOrCooler.triggers ∧
      (brighterOrCooler.only (.delta "light.desk" "brightness" .increase)).compile.RunsOn
        .plain .brighter ∧
      ¬ brighterOrCooler.compile.RunsOn .plain .brighter := by
  refine ⟨⟨_, checked_eq_ok_iff.mpr ⟨rfl, rfl⟩⟩, List.mem_cons_self,
    runsOn_brighterOrCooler_only, ?_⟩
  rw [runsOn_compile_iff]
  rintro ⟨_, _, hpass⟩
  have hmem : .delta "climate.room" "current_temperature" .decrease ∈ brighterOrCooler.triggers :=
    List.mem_cons_of_mem _ List.mem_cons_self
  obtain ⟨change, hchange, htest⟩ := hpass _ hmem _ rfl
  obtain rfl := Option.some.inj hchange
  have hmovement : DeltaTest.movement .plain
      ⟨.decrease, Trigger.watched "current_temperature"⟩
      ⟨"light.desk", ⟨"on", [("brightness", .int 10)]⟩, ⟨"on", [("brightness", .int 200)]⟩⟩ =
      0 - 0 := rfl
  rw [hmovement, sub_zero] at htest
  exact absurd htest (not_le.mpr (DeltaTest.exactThreshold_pos _))

section Alternatives

variable (rules : HubRules) {draft : Draft} {event : Event}

/-- Triggers without a test and triggers with the same test do no harm. -/
theorem runsOn_of_runsOn_only {trigger : Trigger} (hmem : trigger ∈ draft.triggers)
    (hother : ∀ other ∈ draft.triggers, other.test? = none ∨ other.test? = trigger.test?)
    (h : (draft.only trigger).compile.RunsOn rules event) :
    draft.compile.RunsOn rules event := by
  obtain ⟨hfires, hopen, hpass⟩ := (runsOn_only_iff rules trigger).mp h
  rw [runsOn_compile_iff]
  refine ⟨⟨trigger, hmem, hfires⟩, hopen, ?_⟩
  intro other hmemOther test htest
  rcases hother other hmemOther with hnone | hsame
  · exact absurd (hnone.symm.trans htest) nofun
  · exact hpass test (hsame.symm.trans htest)

/-- Every trigger of the draft starts it as it would alone. -/
def TriggersAlternate (draft : Draft) : Prop :=
  ∀ trigger ∈ draft.triggers, ∀ event,
    (draft.only trigger).compile.RunsOn rules event → draft.compile.RunsOn rules event

/-- The gate does not look at what changes. -/
theorem isOpen_of_same_time {other : Event} (h : draft.IsOpen rules event)
    (hday : other.day = event.day) (hminute : other.minute = event.minute) :
    draft.IsOpen rules other := by
  intro condition hgate
  have hcondition := h condition hgate
  rw [gate?_eq] at hgate
  split at hgate
  · obtain rfl := Option.some.inj hgate
    rw [Condition.Holds, hday, hminute]
    exact hcondition
  · exact absurd hgate nofun

/-- With two tests in it, a draft of delta triggers does not run when one value moves. -/
theorem exists_runsOn_only_of_ne (h : rules.WatchesValues) (hopen : draft.IsOpen rules event)
    {trigger other : Trigger} {test reverse : DeltaTest} (hmem : other ∈ draft.triggers)
    (htest : trigger.test? = some test) (hreverse : other.test? = some reverse)
    (hne : test ≠ reverse) :
    ∃ event, (draft.only trigger).compile.RunsOn rules event ∧
      ¬ draft.compile.RunsOn rules event := by
  cases trigger with
  | delta entity attr direction =>
      obtain rfl := Option.some.inj htest
      let moved : EntityChange := .moving entity ⟨direction, Trigger.watched attr⟩
      refine ⟨⟨event.day, event.minute, some moved⟩, ?_, ?_⟩
      · rw [runsOn_only_iff]
        refine ⟨h.fires_moving entity attr direction rfl, ?_, ?_⟩
        · exact isOpen_of_same_time rules hopen rfl rfl
        · intro test htest
          obtain rfl := Option.some.inj htest
          exact h.passes_moving entity _ rfl
      · rw [runsOn_compile_iff]
        rintro ⟨_, _, hpass⟩
        exact h.not_passes_moving entity hne rfl (hpass other hmem reverse hreverse)
  | state entity target source => exact absurd htest nofun
  | position entity attr value => exact absurd htest nofun
  | time clock days => exact absurd htest nofun

/-- Delta triggers are alternatives exactly if they all have the same test. -/
theorem triggersAlternate_iff (h : rules.WatchesValues) (hopen : draft.IsOpen rules event)
    (hdelta : ∀ trigger ∈ draft.triggers, trigger.test? ≠ none) :
    draft.TriggersAlternate rules ↔
      ∀ trigger ∈ draft.triggers, ∀ other ∈ draft.triggers, other.test? = trigger.test? := by
  constructor
  · intro halternate trigger hmem other hmemOther
    by_contra hne
    obtain ⟨test, htest⟩ := Option.ne_none_iff_exists'.mp (hdelta trigger hmem)
    obtain ⟨reverse, hreverse⟩ := Option.ne_none_iff_exists'.mp (hdelta other hmemOther)
    have htests : test ≠ reverse := by
      rintro rfl
      exact hne (hreverse.trans htest.symm)
    obtain ⟨moved, honly, hnot⟩ :=
      exists_runsOn_only_of_ne rules h hopen hmemOther htest hreverse htests
    exact hnot (halternate trigger hmem moved honly)
  · intro hsame trigger hmem event honly
    refine runsOn_of_runsOn_only rules hmem ?_ honly
    intro other hmemOther
    exact Or.inr (hsame trigger hmem other hmemOther)

/-- With a delta trigger in it, a draft does not run on an event that changes no entity, such as a
tick of the clock. -/
theorem not_runsOn_of_no_change {trigger : Trigger} {test : DeltaTest}
    (hmem : trigger ∈ draft.triggers) (htest : trigger.test? = some test)
    (h : event.change = none) : ¬ draft.compile.RunsOn rules event := by
  rw [runsOn_compile_iff]
  rintro ⟨_, _, hpass⟩
  exact test.not_passes_of_no_change rules h (hpass trigger hmem test htest)

/-- With delta triggers in both directions, a draft never runs. -/
theorem not_runsOn_of_opposite {entity other attr : String} {direction opposite : Direction}
    (hmem : .delta entity attr direction ∈ draft.triggers)
    (hmemOther : .delta other attr opposite ∈ draft.triggers) (hne : direction ≠ opposite)
    (event : Event) : ¬ draft.compile.RunsOn rules event := by
  rw [runsOn_compile_iff]
  rintro ⟨_, _, hpass⟩
  let test : DeltaTest := ⟨direction, Trigger.watched attr⟩
  let reverse : DeltaTest := ⟨opposite, Trigger.watched attr⟩
  have htest : test.Passes rules event := hpass _ hmem test rfl
  have hreverse : reverse.Passes rules event := hpass _ hmemOther reverse rfl
  exact test.not_passes_both rules reverse rfl hne htest hreverse

end Alternatives

end Draft

end HomeAutomation
