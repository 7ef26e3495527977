import HomeAutomation.Capability.Basic
import HomeAutomation.Proofs.Draft.Shape
import Mathlib.Logic.Relation

/-!
# Drafts made from a capability

All specs that a device offers on a surface make up a draft, one trigger or action for each of them
in the order of the catalog (`TriggerSpec.IsFor`, `ActionSpec.IsFor`). Nothing else of the
capability matters: specs that are not offered on the surface can be added or dropped
(`Capability.Edit`) and the draft stays the same. It has no gate, so it is accepted when some
trigger is offered and some action with a service, and its conditions are the tests of the delta
specs.
-/

namespace HomeAutomation

def SpecInfo.surfaceNames (info : SpecInfo) : List String :=
  info.surfaces.map Vocabulary.text

theorem SpecInfo.isOfferedOn_eq (surface : String) (info : SpecInfo) :
    info.isOfferedOn surface = decide (surface ∈ info.surfaceNames) := by
  rw [Bool.eq_iff_iff]
  simp [isOfferedOn, surfaceNames]

namespace TriggerSpec

/-- The trigger is the one that the spec stands for. -/
inductive IsFor (entity : String) : TriggerSpec → Trigger → Prop
  | state (info : SpecInfo) (target : SwitchState) :
    IsFor entity (.state info target) (.state entity (some (Vocabulary.text target)) none)
  | delta (info : SpecInfo) (attr : String) (direction : Direction) :
    IsFor entity (.delta info attr direction) (.delta entity attr direction)
  /-- Of several attributes the first one is meant. -/
  | position (info : SpecInfo) (value : Float) (attr : String) (others : List String) :
    IsFor entity (.position info value attr others) (.position entity attr value)
  /-- A time is the same for every entity. -/
  | time (info : SpecInfo) (clock : String) (days : Option (List Weekday)) :
    IsFor entity (.time info clock days) (.time clock days)

theorem isFor_toTrigger (entity : String) (spec : TriggerSpec) :
    IsFor entity spec (spec.toTrigger entity) := by
  cases spec with
  | state info target => exact .state info target
  | delta info attr direction => exact .delta info attr direction
  | position info value attr others => exact .position info value attr others
  | time info clock days => exact .time info clock days

theorem instantiate_str (entity : String) (spec : TriggerSpec) :
    spec.instantiate (.str entity) = .valid (spec.toTrigger entity) := by
  cases spec <;> rfl

/-- The spec offers the movement of a value. -/
def isDelta (spec : TriggerSpec) : Bool :=
  spec.kind == deltaKind

/-- The condition is the test that belongs to a delta spec. -/
def IsTestedBy (spec : TriggerSpec) (condition : Json) : Prop :=
  ∃ info attr direction, spec = .delta info attr direction ∧
    condition = .obj [("condition", .str "template"),
      ("value_template", .str (DeltaTest.template ⟨direction, Trigger.watched attr⟩))]

theorem isDelta_toTrigger (entity : String) (spec : TriggerSpec) :
    (spec.toTrigger entity).isDelta = spec.isDelta := by
  cases spec <;> rfl

theorem isTestedBy_of_toTrigger {entity : String} {spec : TriggerSpec} {condition : Json}
    (h : (spec.toTrigger entity).IsTestedBy condition) : spec.IsTestedBy condition := by
  obtain ⟨_, attr, direction, htrigger, hcondition⟩ := h
  cases spec with
  | delta info attr' direction' =>
      cases htrigger
      exact ⟨info, attr, direction, rfl, hcondition⟩
  | _ => cases htrigger

end TriggerSpec

namespace ActionSpec

/-- The action is the one that the spec stands for when the number is chosen. -/
inductive IsFor (entity : String) (choice : Option Float) : ActionSpec → Action → Prop
  /-- What is chosen goes before the number of the spec. -/
  | button (info : SpecInfo) (command : String) (value : Option Float) (primary : Bool) :
    IsFor entity choice (.button info command value primary) ⟨entity, command, choice.or value⟩
  | fixed (info : SpecInfo) (command : String) (value : Float) (primary : Bool) :
    IsFor entity choice (.fixed info command value primary) ⟨entity, command, some value⟩
  | slider (info : SpecInfo) (command : String) (low high : Float) (step : Option Float)
      (primary : Bool) :
    IsFor entity choice (.slider info command low high step primary) ⟨entity, command, choice⟩
  /-- An automation can only switch on. -/
  | toggle (info : SpecInfo) (commandOn commandOff : String) (primary : Bool) :
    IsFor entity choice (.toggle info commandOn commandOff primary) ⟨entity, commandOn, none⟩

theorem isFor_toAction (entity : String) (choice : Option Float) (spec : ActionSpec) :
    IsFor entity choice spec (spec.toAction entity choice) := by
  cases spec with
  | button info command value primary => exact .button info command value primary
  | fixed info command value primary => exact .fixed info command value primary
  | slider info command low high step primary => exact .slider info command low high step primary
  | toggle info commandOn commandOff primary => exact .toggle info commandOn commandOff primary

theorem instantiate_str (entity : String) (choice : Option Float) (spec : ActionSpec) :
    spec.instantiate (.str entity) (Action.valueToJson choice) =
      .valid (spec.toAction entity choice) := by
  cases spec <;> cases choice <;> rfl

/-- The command that an automation gives. -/
def picked : ActionSpec → String
  | button _ command _ _ | fixed _ command _ _ | slider _ command _ _ _ _ => command
  | toggle _ commandOn _ _ => commandOn

theorem command_toAction (entity : String) (choice : Option Float) (spec : ActionSpec) :
    (spec.toAction entity choice).command = spec.picked := by
  cases spec <;> rfl

end ActionSpec

namespace Capability

def triggersOn (capability : Capability) (surface : String) : List TriggerSpec :=
  capability.triggers.filter fun spec => surface ∈ spec.info.surfaceNames

def actionsOn (capability : Capability) (surface : String) : List ActionSpec :=
  capability.actions.filter fun spec => surface ∈ spec.info.surfaceNames

theorem onSurface_eq (surface : String) (capability : Capability) :
    capability.onSurface surface =
      ⟨capability.triggersOn surface, capability.actionsOn surface, capability.excluded⟩ := by
  simp only [onSurface, triggersOn, actionsOn, SpecInfo.isOfferedOn_eq]

theorem onSurface_onSurface (surface : String) (capability : Capability) :
    (capability.onSurface surface).onSurface surface = capability.onSurface surface := by
  simp [onSurface, List.filter_filter]

/-- One spec that is not offered on the surface is added or dropped. -/
inductive Edit (surface : String) : Capability → Capability → Prop
  | addTrigger {before after : List TriggerSpec} {actions : List ActionSpec} {excluded : Bool}
      {spec : TriggerSpec} (h : surface ∉ spec.info.surfaceNames) :
    Edit surface ⟨before ++ after, actions, excluded⟩ ⟨before ++ spec :: after, actions, excluded⟩
  | dropTrigger {before after : List TriggerSpec} {actions : List ActionSpec} {excluded : Bool}
      {spec : TriggerSpec} (h : surface ∉ spec.info.surfaceNames) :
    Edit surface ⟨before ++ spec :: after, actions, excluded⟩ ⟨before ++ after, actions, excluded⟩
  | addAction {triggers : List TriggerSpec} {before after : List ActionSpec} {excluded : Bool}
      {spec : ActionSpec} (h : surface ∉ spec.info.surfaceNames) :
    Edit surface ⟨triggers, before ++ after, excluded⟩ ⟨triggers, before ++ spec :: after, excluded⟩
  | dropAction {triggers : List TriggerSpec} {before after : List ActionSpec} {excluded : Bool}
      {spec : ActionSpec} (h : surface ∉ spec.info.surfaceNames) :
    Edit surface ⟨triggers, before ++ spec :: after, excluded⟩ ⟨triggers, before ++ after, excluded⟩

theorem onSurface_of_edit {surface : String} {capability edited : Capability}
    (h : Edit surface capability edited) :
    edited.onSurface surface = capability.onSurface surface := by
  cases h with
  | addTrigger hspec | dropTrigger hspec => simp [onSurface_eq, triggersOn, actionsOn, hspec]
  | addAction hspec | dropAction hspec => simp [onSurface_eq, triggersOn, actionsOn, hspec]

theorem onSurface_of_edits {surface : String} {capability edited : Capability}
    (h : Relation.ReflTransGen (Edit surface) capability edited) :
    edited.onSurface surface = capability.onSurface surface := by
  induction h with
  | refl => rfl
  | tail _ hedit ih => exact (onSurface_of_edit hedit).trans ih

/-- A draft depends on nothing but the specs of the surface. -/
theorem author_congr {surface : String} {capability other : Capability}
    (h : other.onSurface surface = capability.onSurface surface) (title entity choice : Json) :
    other.author surface title entity choice = capability.author surface title entity choice := by
  simp only [author, h]

theorem author_str (capability : Capability) (surface : String) (title : NonEmptyText)
    (entity : String) (choice : Option Float) :
    capability.author surface (.str title.val) (.str entity) (Action.valueToJson choice) =
      .ok (capability.toDraft surface title entity choice) := by
  have htitle : Reader.nonEmptyText (.str title.val) = .valid title := by
    rw [Reader.nonEmptyText, dif_neg title.property]
  have htriggers (specs : List TriggerSpec) :
      specs.mapM (fun spec => (spec.instantiate (.str entity)).toExcept) =
        .ok (specs.map (TriggerSpec.toTrigger entity)) := by
    simp only [TriggerSpec.instantiate_str]
    exact List.mapM_pure
  have hactions (specs : List ActionSpec) :
      specs.mapM (fun spec =>
          (spec.instantiate (.str entity) (Action.valueToJson choice)).toExcept) =
        .ok (specs.map (ActionSpec.toAction entity choice)) := by
    simp only [ActionSpec.instantiate_str]
    exact List.mapM_pure
  rw [author, htriggers, hactions, htitle]
  rfl

variable {surface entity : String} {title : NonEmptyText} {choice : Option Float}

theorem isRunnable_toDraft {capability : Capability} :
    (capability.toDraft surface title entity choice).IsRunnable ↔
      (∃ spec, spec ∈ capability.triggersOn surface) ∧
        ∃ spec ∈ capability.actionsOn surface, IsMapped spec.picked := by
  have hgate : ¬ (capability.toDraft surface title entity choice).hasGate = true := by
    rw [Draft.hasGate_iff_given]
    simp [toDraft]
  have htriggers : (capability.toDraft surface title entity choice).triggers ≠ [] ↔
      ∃ spec, spec ∈ capability.triggersOn surface := by
    rw [toDraft, onSurface_eq, ne_eq, List.map_eq_nil_iff, ← List.isEmpty_iff, Bool.not_eq_true,
      List.isEmpty_eq_false_iff_exists_mem]
  have hactions :
      (∃ action ∈ (capability.toDraft surface title entity choice).actions,
        IsMapped action.command) ↔
        ∃ spec ∈ capability.actionsOn surface, IsMapped spec.picked := by
    simp [toDraft, onSurface_eq, ActionSpec.command_toAction]
  rw [Draft.IsRunnable, ← Draft.hasGate_iff, htriggers, hactions, or_iff_left hgate]

theorem listAt_condition_toDraft (capability : Capability) :
    (capability.toDraft surface title entity choice).compile.toFields.listAt "condition" =
      Trigger.writtenTests
        ((capability.triggersOn surface).map (TriggerSpec.toTrigger entity)) := by
  rw [Draft.listAt_condition, toDraft, onSurface_eq]
  rfl

theorem forall₂_isTestedBy (specs : List TriggerSpec) :
    List.Forall₂ TriggerSpec.IsTestedBy (specs.filter TriggerSpec.isDelta)
      (Trigger.writtenTests (specs.map (TriggerSpec.toTrigger entity))) := by
  have hdelta : Trigger.isDelta ∘ TriggerSpec.toTrigger entity = TriggerSpec.isDelta :=
    funext (TriggerSpec.isDelta_toTrigger entity)
  have h := Trigger.forall₂_writtenTests (specs.map (TriggerSpec.toTrigger entity))
  rw [List.filter_map, hdelta, List.forall₂_map_left_iff] at h
  exact h.imp fun _ _ => TriggerSpec.isTestedBy_of_toTrigger

/-- The draft holds what the capability offers on the surface, and nothing else. -/
structure IsAuthored (capability : Capability) (surface : String) (title : NonEmptyText)
    (entity : String) (choice : Option Float) (draft : Draft) : Prop where
  title_eq : draft.title = title
  triggers : List.Forall₂ (TriggerSpec.IsFor entity) (capability.triggersOn surface) draft.triggers
  actions : List.Forall₂ (ActionSpec.IsFor entity choice) (capability.actionsOn surface)
    draft.actions
  /-- A trigger has to be offered, and an action that can be carried out. -/
  isAccepted_iff : draft.IsAccepted ↔
    (∃ spec, spec ∈ capability.triggersOn surface) ∧
      ∃ spec ∈ capability.actionsOn surface, IsMapped spec.picked
  /-- Each delta spec adds its test, and there are no other conditions. -/
  conditions : List.Forall₂ TriggerSpec.IsTestedBy
    ((capability.triggersOn surface).filter TriggerSpec.isDelta)
    (draft.compile.toFields.listAt "condition")

theorem isAuthored_toDraft (capability : Capability) :
    capability.IsAuthored surface title entity choice
      (capability.toDraft surface title entity choice) where
  title_eq := rfl
  triggers := by
    rw [toDraft, onSurface_eq, List.forall₂_map_right_iff]
    exact List.forall₂_same.mpr fun spec _ => spec.isFor_toTrigger entity
  actions := by
    rw [toDraft, onSurface_eq, List.forall₂_map_right_iff]
    exact List.forall₂_same.mpr fun spec _ => spec.isFor_toAction entity choice
  isAccepted_iff := Draft.isAccepted_iff_isRunnable.trans isRunnable_toDraft
  conditions := by
    rw [listAt_condition_toDraft]
    exact forall₂_isTestedBy _

/-- What is offered on a surface makes up a draft, in the order of the catalog. It is the same draft
after any change of the specs that are offered elsewhere, and so for what is left of the capability
on the surface. -/
theorem author_offered (capability : Capability) (surface : String) :
    (∀ (title : NonEmptyText) (entity : String) (choice : Option Float), ∃ draft,
      capability.author surface (.str title.val) (.str entity) (Action.valueToJson choice) =
          .ok draft ∧
        capability.IsAuthored surface title entity choice draft) ∧
      (∀ edited, Relation.ReflTransGen (Edit surface) capability edited →
        ∀ title entity choice : Json,
          edited.author surface title entity choice =
            capability.author surface title entity choice) ∧
      (capability.onSurface surface).onSurface surface = capability.onSurface surface := by
  refine ⟨?_, ?_, onSurface_onSurface surface capability⟩
  · intro title entity choice
    exact ⟨_, author_str capability surface title entity choice, isAuthored_toDraft capability⟩
  · intro edited hedits
    exact author_congr (onSurface_of_edits hedits)

def hallLight : Capability where
  triggers := [.state ⟨"on", "Switched on", [.automation]⟩ .on,
    .delta ⟨"brighter", "Gets brighter", [.automation]⟩ "brightness" .increase]
  actions := [.toggle ⟨"power", "Power", [.dashboard]⟩ "light/turn_on" "light/turn_off" true,
    .button ⟨"on", "Switch on", [.automation]⟩ "light/turn_on" none false]
  excluded := false

theorem author_offered_hallLight :
    let surface := authoringSurface
    let withoutSwitch := { hallLight with actions := hallLight.actions.tail }
    Relation.ReflTransGen (Edit surface) hallLight withoutSwitch ∧
      (∀ title entity choice : Json,
        withoutSwitch.author surface title entity choice =
          hallLight.author surface title entity choice) ∧
      ∃ draft,
        hallLight.author surface (.str "Hall") (.str "light.hall") (Action.valueToJson none) =
            .ok draft ∧
          draft.IsAccepted ∧ (draft.compile.toFields.listAt "condition").length = 1 := by
  intro surface withoutSwitch
  have hedit : Edit surface hallLight withoutSwitch :=
    @Edit.dropAction surface hallLight.triggers [] _ false _ (by decide)
  have hedits := Relation.ReflTransGen.single hedit
  have hoffered := author_offered hallLight surface
  obtain ⟨draft, hdraft, hauthored⟩ := hoffered.1 ⟨"Hall", by decide⟩ "light.hall" none
  have hmapped : IsMapped "light/turn_on" := ⟨"light", none, _, rfl⟩
  refine ⟨hedits, hoffered.2.1 _ hedits, draft, hdraft, ?_, ?_⟩
  · rw [hauthored.isAccepted_iff]
    exact ⟨⟨_, .head _⟩, _, .head _, hmapped⟩
  · rw [← hauthored.conditions.length_eq]
    rfl

end Capability

end HomeAutomation
