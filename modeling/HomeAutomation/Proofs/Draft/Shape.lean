import HomeAutomation.Proofs.Backend.Key
import HomeAutomation.Proofs.Draft.Runnable
import HomeAutomation.Proofs.Native.Describable
import Mathlib.Data.List.Forall2
import Mathlib.Data.List.TakeWhile

/-!
# The shape of a configuration

A configuration takes over the triggers of its draft one by one, and of the actions those that have
a service, all in the order of the draft. Its conditions are the gate, if the draft asks for one,
and one test for each delta trigger (`Draft.HasShape`). None of these lists depends on more than the
part of the draft that it is made from, and each of them is made part by part. So when the triggers
or the actions of two drafts are put together, the lists made of them are put together as well.
-/

namespace HomeAutomation

open Text

namespace Text

theorem trim_eq_nil_iff {p : Char → Bool} {s : List Char} :
    trim p s = [] ↔ ∀ c ∈ s, p c = true := by
  rw [← List.dropWhile_eq_nil_iff]
  cases hs : s.dropWhile p with
  | nil => simp [trim, hs]
  | cons c rest =>
      have hc : p c = false := head?_dropWhile (s := s) (by rw [hs]; rfl)
      simp [trim, trimEnd, hs, List.dropWhile_eq_nil_iff, hc]

theorem strip_eq_empty_iff {s : String} : strip s = "" ↔ isBlankText s = true := by
  rw [isBlankText, List.all_eq_true, ← trim_eq_nil_iff, strip, String.ofList_eq_empty_iff]

end Text

/-- The kind of a condition in JSON. -/
def Condition.kind? (condition : Json) : Option String := do
  let fields ← condition.fields?
  (← fields.get? "condition").text?

namespace Json.Fields

/-- The list under a name, empty if the name is not there. -/
def listAt (config : Fields) (name : String) : List Json :=
  (config.field name).items?.getD []

/-- The template conditions of a configuration. -/
def tests (config : Fields) : List Json :=
  (config.listAt "condition").filter fun condition => Condition.kind? condition == some "template"

end Json.Fields

namespace Trigger

/-- The trigger looks at the movement of a value. -/
def isDelta (trigger : Trigger) : Bool :=
  trigger.kind == deltaKind

/-- The condition is the test of the delta trigger. -/
def IsTestedBy (trigger : Trigger) (condition : Json) : Prop :=
  ∃ entity attr direction, trigger = .delta entity attr direction ∧
    condition = .obj [("condition", .str "template"),
      ("value_template", .str (DeltaTest.template ⟨direction, watched attr⟩))]

theorem test?_eq_none_iff {trigger : Trigger} : trigger.test? = none ↔ trigger.isDelta = false := by
  cases trigger with
  | delta entity attr direction => simp [test?, isDelta, kind]
  | _ => exact ⟨fun _ => rfl, fun _ => rfl⟩

theorem isTestedBy_of_test?_eq_some {trigger : Trigger} {test : DeltaTest}
    (h : trigger.test? = some test) : trigger.IsTestedBy (Condition.template test).toJson := by
  cases trigger with
  | delta entity attr direction =>
      obtain rfl := Option.some.inj h
      exact ⟨entity, attr, direction, rfl, rfl⟩
  | _ => cases h

/-- The template conditions that some triggers add. -/
def writtenTests (triggers : List Trigger) : List Json :=
  (triggers.filterMap test?).map fun test => (Condition.template test).toJson

theorem writtenTests_append (triggers more : List Trigger) :
    writtenTests (triggers ++ more) = writtenTests triggers ++ writtenTests more := by
  rw [writtenTests, List.filterMap_append, List.map_append, writtenTests, writtenTests]

/-- Each delta trigger adds one test, in the order of the triggers. -/
theorem forall₂_writtenTests (triggers : List Trigger) :
    List.Forall₂ IsTestedBy (triggers.filter isDelta) (writtenTests triggers) := by
  induction triggers with
  | nil => exact .nil
  | cons trigger rest ih =>
      cases htest : trigger.test? with
      | none =>
          have hdelta : ¬ trigger.isDelta = true := by simp [test?_eq_none_iff.mp htest]
          rw [List.filter_cons_of_neg hdelta, writtenTests, List.filterMap_cons_none htest]
          exact ih
      | some test =>
          have hdelta : trigger.isDelta = true := by
            rw [← Bool.not_eq_false, ← test?_eq_none_iff, htest]
            exact Option.some_ne_none test
          rw [List.filter_cons_of_pos hdelta, writtenTests, List.filterMap_cons_some htest]
          exact .cons (isTestedBy_of_test?_eq_some htest) ih

theorem writtenTests_ne_nil_iff {triggers : List Trigger} :
    writtenTests triggers ≠ [] ↔ ∃ trigger ∈ triggers, trigger.isDelta = true := by
  rw [writtenTests, ne_eq, List.map_eq_nil_iff, List.filterMap_eq_nil_iff]
  simp only [test?_eq_none_iff, Classical.not_forall, Bool.not_eq_false, exists_prop]

theorem ofKind_kind_ne_unsupported (trigger : Trigger) (entity other : String) :
    ofKind trigger.kind entity ≠ .error (.unsupported other) := by
  cases trigger with
  | state => simp [ofKind, kind]
  | delta => simp [ofKind, kind, deltaKind, stateKind]
  | position => simp [ofKind, kind, positionKind, stateKind]
  | time => simp [ofKind, kind, timeKind, stateKind]

end Trigger

namespace Action

/-- A number that is a double is too large for no command. -/
theorem refuseTooLarge_double (command : String) (value : Option Float) :
    refuseTooLarge command (value.map .double) = .ok () := by
  have hnot : DeviceCommand.isTooLarge (value.map .double) = false := by
    cases value <;> rfl
  simp [refuseTooLarge, hnot]

/-- Compiling an action of a draft goes through, whether it is dropped or not. -/
theorem compileRaw_eq_ok (action : Action) :
    compileRaw Action.kind action.entity action.command (action.value.map .double) =
      .ok action.compile.toOption := by
  rw [compileRaw, if_pos rfl, refuseTooLarge_double]
  rfl

end Action

theorem NativeAutomation.get?_condition (config : NativeAutomation) :
    config.toFields.get? "condition" =
      if config.conditions = [] then none
      else some (.arr (config.conditions.map Condition.toJson)) := by
  obtain ⟨id, _, _, _, _, _, conditions⟩ := config
  cases id <;> cases conditions <;> rfl

namespace Draft

variable {draft : Draft}

/-- A draft has a gate exactly when it names a day or its clock is more than blanks. -/
theorem hasGate_iff_given :
    draft.hasGate = true ↔
      (∃ day rest, draft.days = some (day :: rest)) ∨
        ∃ clock, draft.clock = some clock ∧ isBlankText clock = false := by
  have hdays : draft.gateDays ≠ [] ↔ ∃ day rest, draft.days = some (day :: rest) := by
    unfold gateDays
    cases draft.days with
    | none => simp
    | some days => simp [List.ne_nil_iff_exists_cons]
  have hclock : draft.gateClock ≠ "" ↔
      ∃ clock, draft.clock = some clock ∧ isBlankText clock = false := by
    rw [gateClock, ne_eq, strip_eq_empty_iff, Bool.not_eq_true]
    cases draft.clock with
    | none => simp [isBlankText]
    | some clock => simp
  rw [hasGate_iff, hdays, hclock]

/-- The list is the gate of the draft: one time condition, or nothing if it has no gate. -/
def IsGatedBy (draft : Draft) (gate : List Json) : Prop :=
  if draft.hasGate then ∃ condition, gate = [condition] ∧ Condition.kind? condition = some "time"
  else gate = []

/-- How a configuration is made up from the parts of a draft. -/
structure HasShape (draft : Draft) (config : Json.Fields) : Prop where
  /-- The triggers are taken over one by one. -/
  trigger_eq : config.field "trigger" =
    .arr (draft.triggers.map fun trigger => trigger.compile.toJson)
  /-- The actions are those that are not dropped. -/
  action_eq : config.field "action" =
    .arr (draft.actions.filterMap fun action => action.compile.toOption.map NativeAction.toJson)
  /-- There are conditions exactly if the draft has a gate or a delta trigger. -/
  has_condition_iff : config.has "condition" = true ↔
    draft.hasGate = true ∨ ∃ trigger ∈ draft.triggers, trigger.isDelta = true
  /-- The gate comes first, and then the test of each delta trigger. -/
  condition_eq : ∃ gate tests, config.get? "condition" =
      (if gate ++ tests = [] then none else some (.arr (gate ++ tests))) ∧
    draft.IsGatedBy gate ∧
    List.Forall₂ Trigger.IsTestedBy (draft.triggers.filter Trigger.isDelta) tests
  /-- The id is that of the draft, unless that is empty. -/
  id_eq_iff : ∀ v, config.get? "id" = some v ↔ ∃ id, draft.id = some id ∧ id ≠ "" ∧ v = .str id

/-- The gate of a draft in JSON. -/
def writtenGate (draft : Draft) : List Json :=
  draft.gate?.toList.map Condition.toJson

theorem isGatedBy_writtenGate (draft : Draft) : draft.IsGatedBy draft.writtenGate := by
  rw [IsGatedBy, writtenGate, gate?_eq]
  split
  · exact ⟨_, rfl, rfl⟩
  · rfl

theorem writtenGate_ne_nil_iff : draft.writtenGate ≠ [] ↔ draft.hasGate = true := by
  rw [writtenGate, gate?_eq]
  split
  case isTrue h => simp [h]
  case isFalse h => simp [h]

theorem map_toJson_conditions (draft : Draft) :
    draft.conditions.map Condition.toJson =
      draft.writtenGate ++ Trigger.writtenTests draft.triggers := by
  rw [conditions, List.map_append, List.map_map]
  rfl

theorem get?_condition_compile (draft : Draft) :
    draft.compile.toFields.get? "condition" =
      if draft.writtenGate ++ Trigger.writtenTests draft.triggers = [] then none
      else some (.arr (draft.writtenGate ++ Trigger.writtenTests draft.triggers)) := by
  have hnil : draft.compile.conditions = [] ↔
      draft.writtenGate ++ Trigger.writtenTests draft.triggers = [] := by
    rw [← map_toJson_conditions, List.map_eq_nil_iff]
    rfl
  rw [NativeAutomation.get?_condition]
  simp only [hnil, ← map_toJson_conditions]
  rfl

theorem has_condition_compile_iff :
    draft.compile.toFields.has "condition" = true ↔
      draft.hasGate = true ∨ ∃ trigger ∈ draft.triggers, trigger.isDelta = true := by
  rw [Json.Fields.has, get?_condition_compile, ← writtenGate_ne_nil_iff,
    ← Trigger.writtenTests_ne_nil_iff]
  split
  case isTrue h => simpa using h
  case isFalse h => simpa [Classical.or_iff_not_imp_left] using h

theorem get?_id_compile (draft : Draft) :
    draft.compile.toFields.get? "id" = (nonEmpty? draft.id).map .str := by
  cases hid : nonEmpty? draft.id with
  | none => exact NativeAutomation.get?_id_of_none hid
  | some id => exact NativeAutomation.get?_id_of_some hid

theorem get?_id_compile_eq_iff {v : Json} :
    draft.compile.toFields.get? "id" = some v ↔
      ∃ id, draft.id = some id ∧ id ≠ "" ∧ v = .str id := by
  rw [get?_id_compile, Option.map_eq_some_iff]
  constructor
  · rintro ⟨id, hid, rfl⟩
    obtain ⟨hgiven, hne⟩ := nonEmpty?_eq_some hid
    exact ⟨id, hgiven, hne, rfl⟩
  · rintro ⟨id, hgiven, hne, rfl⟩
    exact ⟨id, by rw [hgiven, nonEmpty?_some hne], rfl⟩

theorem hasShape_compile (draft : Draft) : draft.HasShape draft.compile.toFields where
  trigger_eq := by
    rw [NativeAutomation.field_trigger, compile, List.map_map]
    rfl
  action_eq := by
    rw [NativeAutomation.field_action, compile, nativeActions, List.map_filterMap]
  has_condition_iff := has_condition_compile_iff
  condition_eq := ⟨_, _, get?_condition_compile draft, isGatedBy_writtenGate draft,
    Trigger.forall₂_writtenTests draft.triggers⟩
  id_eq_iff _ := get?_id_compile_eq_iff

theorem listAt_trigger (draft : Draft) :
    draft.compile.toFields.listAt "trigger" =
      draft.triggers.map fun trigger => trigger.compile.toJson := by
  rw [Json.Fields.listAt, (hasShape_compile draft).trigger_eq]
  rfl

theorem listAt_action (draft : Draft) :
    draft.compile.toFields.listAt "action" =
      draft.actions.filterMap fun action => action.compile.toOption.map NativeAction.toJson := by
  rw [Json.Fields.listAt, (hasShape_compile draft).action_eq]
  rfl

theorem listAt_condition (draft : Draft) :
    draft.compile.toFields.listAt "condition" =
      draft.writtenGate ++ Trigger.writtenTests draft.triggers := by
  rw [Json.Fields.listAt, Json.Fields.field, get?_condition_compile]
  split
  case isTrue h => rw [h]; rfl
  case isFalse h => rfl

/-- The gate is a time condition, so the template conditions are the tests of the triggers. -/
theorem tests_compile (draft : Draft) :
    draft.compile.toFields.tests = Trigger.writtenTests draft.triggers := by
  have hgate : draft.writtenGate.filter
      (fun condition => Condition.kind? condition == some "template") = [] := by
    rw [writtenGate, gate?_eq]
    split
    · rfl
    · rfl
  have htests : (Trigger.writtenTests draft.triggers).filter
      (fun condition => Condition.kind? condition == some "template") =
        Trigger.writtenTests draft.triggers := by
    rw [List.filter_eq_self]
    intro condition hmem
    obtain ⟨test, -, rfl⟩ := List.mem_map.mp hmem
    rfl
  rw [Json.Fields.tests, listAt_condition, List.filter_append, hgate, htests, List.nil_append]

/-- Compiling meets no fault that it could meet where kinds and numbers are not checked before. -/
structure CompilesSafely (draft : Draft) : Prop where
  trigger_ne : ∀ trigger ∈ draft.triggers, ∀ entity other,
    Trigger.ofKind trigger.kind entity ≠ .error (.unsupported other)
  action_eq : ∀ action ∈ draft.actions,
    compileRaw Action.kind action.entity action.command (action.value.map .double) =
      .ok action.compile.toOption

/-- Every draft is compiled, to a configuration of its shape. If the triggers of two drafts make up
those of a third, then so do the triggers and the tests of their configurations, and it is the same
with the actions. -/
theorem compile_shape (draft : Draft) :
    draft.CompilesSafely ∧ draft.HasShape draft.compile.toFields ∧
      (draft.hasGate = true ↔
        (∃ day rest, draft.days = some (day :: rest)) ∨
          ∃ clock, draft.clock = some clock ∧ isBlankText clock = false) ∧
      ∀ left right : Draft,
        let config (draft : Draft) := draft.compile.toFields
        (draft.triggers = left.triggers ++ right.triggers →
          (config draft).listAt "trigger" =
              (config left).listAt "trigger" ++ (config right).listAt "trigger" ∧
            (config draft).tests = (config left).tests ++ (config right).tests) ∧
        (draft.actions = left.actions ++ right.actions →
          (config draft).listAt "action" =
            (config left).listAt "action" ++ (config right).listAt "action") := by
  refine ⟨⟨?_, ?_⟩, hasShape_compile draft, hasGate_iff_given, ?_⟩
  · intro trigger _
    exact trigger.ofKind_kind_ne_unsupported
  · intro action _
    exact action.compileRaw_eq_ok
  · intro left right config
    simp only [config, listAt_trigger, tests_compile, listAt_action]
    constructor
    · intro htriggers
      rw [htriggers]
      exact ⟨List.map_append, Trigger.writtenTests_append _ _⟩
    · intro hactions
      rw [hactions]
      exact List.filterMap_append

/-- A light that also goes on when a room gets colder. -/
def eveningOrColdLights : Draft :=
  { eveningLights with
    triggers := .delta "climate.room" "current_temperature" .decrease :: eveningLights.triggers }

theorem compile_shape_eveningOrColdLights :
    let config (draft : Draft) := draft.compile.toFields
    let cold : Draft :=
      { eveningLights with
        triggers := [.delta "climate.room" "current_temperature" .decrease]
        actions := [] }
    eveningOrColdLights.triggers = cold.triggers ++ eveningLights.triggers ∧
      eveningOrColdLights.actions = cold.actions ++ eveningLights.actions ∧
      (config eveningOrColdLights).tests = (config cold).tests ++ (config eveningLights).tests ∧
      (config eveningOrColdLights).listAt "action" =
        (config cold).listAt "action" ++ (config eveningLights).listAt "action" ∧
      (config eveningOrColdLights).tests.length = 1 := by
  intro config cold
  have htriggers : eveningOrColdLights.triggers = cold.triggers ++ eveningLights.triggers := rfl
  have hactions : eveningOrColdLights.actions = cold.actions ++ eveningLights.actions := rfl
  have hparts := (compile_shape eveningOrColdLights).2.2.2 cold eveningLights
  exact ⟨htriggers, hactions, (hparts.1 htriggers).2, hparts.2 hactions, by decide⟩

end Draft

end HomeAutomation
