import HomeAutomation.Native.Basic
import HomeAutomation.Draft.Basic
import HomeAutomation.Text.Quoted

/-!
# Compiling drafts

`Draft.compile` turns a draft into a configuration of the hub. Triggers are taken over one by one.
The gate of the draft becomes a time condition, and every delta trigger adds a template condition.
An action whose command has no service is dropped; `Action.compile` then says why, so every action
is either in the configuration or in the list of dropped ones (`Draft.dropped`).
-/

namespace HomeAutomation

open Text

namespace Trigger

/-- How close to a position counts as there; reported positions are never compared exactly. -/
def positionTolerance : Float := 0.01

def watched (attr : String) : String :=
  if attr.isEmpty then DeltaTest.stateName else attr

/-- The attribute that a delta trigger has to name to the hub. -/
def namedAttribute? (attr : String) : Option String :=
  if attr.isEmpty || attr = DeltaTest.stateName then none else some attr

def compile : Trigger → NativeTrigger
  | state entity target source => .state entity none target source
  | delta entity attr _ => .state entity (namedAttribute? attr) none none
  | position entity attr value =>
    .numericState entity attr (value - positionTolerance) (value + positionTolerance)
  | time clock days => .time clock days

def test? : Trigger → Option DeltaTest
  | delta _ attr direction => some ⟨direction, watched attr⟩
  | _ => none

/-- Why a trigger of which only the kind is known cannot be compiled. -/
inductive KindFault where
  | unsupported (kind : String)
  | incomplete
  deriving DecidableEq, Repr

def KindFault.message : KindFault → String
  | .unsupported kind => "unsupported trigger kind: " ++ kind
  | .incomplete => "incomplete trigger"

def ofKind (kind entity : String) : Except KindFault Trigger :=
  if kind = stateKind then .ok (state entity none none)
  else if kind = deltaKind ∨ kind = positionKind ∨ kind = timeKind then .error .incomplete
  else .error (.unsupported kind)

end Trigger

inductive DroppedAction where
  | noService (command entity : String)
  | unknownCommand (command entity : String)
  deriving DecidableEq, Repr

def DroppedAction.message : DroppedAction → String
  | noService command entity => "dropping " ++ command ++ " on " ++ entity ++ ": no hub service"
  | unknownCommand command entity =>
    "dropping unknown command " ++ quoted command ++ " on " ++ entity

def isDeviceCommand (v : Json) : Bool :=
  (v.text?.bind fun s => (Vocabulary.ofText? s : Option DeviceCommand)).isSome

inductive TooLarge where
  /-- It has no share of one that is a double. -/
  | tooLarge
  deriving DecidableEq, Repr

/-- Refuses a number that the command cannot work with; only a volume is turned into a share. -/
def refuseTooLarge (command : String) (value : Option Number) : Except TooLarge Unit :=
  if command = "media/volume_set" ∧ DeviceCommand.isTooLarge value then .error .tooLarge
  else .ok ()

def serviceRaw (command domain : String) (value : Option Number) :
    Except TooLarge (Option Service) :=
  (refuseTooLarge command value).map fun _ => serviceFor? command (lower domain) value

/-- The native form of a command to an entity, or why there is none. -/
def compileCommand (entity command : String) (value : Option Number) :
    Except DroppedAction NativeAction :=
  match serviceFor? command (entityDomain entity) value with
  | some service => .ok ⟨service, entity⟩
  | none =>
    if isDeviceCommand (.str command) then .error (.noService command entity)
    else .error (.unknownCommand command entity)

/-- The native form of an action of any kind, with any number. Only device commands have one. -/
def compileRaw (kind entity command : String) (value : Option Number) :
    Except TooLarge (Option NativeAction) :=
  if kind = Action.kind then
    (refuseTooLarge command value).map fun _ => (compileCommand entity command value).toOption
  else .ok none

def Action.compile (action : Action) : Except DroppedAction NativeAction :=
  compileCommand action.entity action.command (action.value.map .double)

namespace Draft

/-- The time condition on the days and at the time of a draft, if it names any. -/
def gate? (draft : Draft) : Option Condition :=
  if draft.gateDays.isEmpty && draft.gateClock.isEmpty then none
  else some (.time draft.gateDays (Window.ofText? draft.gateClock))

/-- There is a time condition exactly if the draft has a gate. -/
theorem gate?_eq (draft : Draft) :
    draft.gate? =
      if draft.hasGate then some (.time draft.gateDays (Window.ofText? draft.gateClock))
      else none := by
  unfold gate? hasGate
  cases draft.gateDays.isEmpty <;> cases draft.gateClock.isEmpty <;> rfl

def conditions (draft : Draft) : List Condition :=
  draft.gate?.toList ++ (draft.triggers.filterMap Trigger.test?).map .template

def nativeActions (draft : Draft) : List NativeAction :=
  draft.actions.filterMap fun action => action.compile.toOption

def dropped (draft : Draft) : List DroppedAction :=
  draft.actions.filterMap fun action =>
    match action.compile with
    | .ok _ => none
    | .error why => some why

def compile (draft : Draft) : NativeAutomation :=
  { id := nonEmpty? draft.id
    title := draft.title.val
    description := draft.description.getD ""
    triggers := draft.triggers.map Trigger.compile
    actions := draft.nativeActions
    mode := draft.mode.getD .single
    conditions := draft.conditions }

end Draft

end HomeAutomation
