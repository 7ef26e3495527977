import HomeAutomation.Draft.Compile

/-!
# Which drafts are accepted

A draft is accepted when it has a trigger or a gate, it has actions, and at least one of them has a
service. `Draft.checked` compiles a draft and says why it is rejected if it is.
-/

namespace HomeAutomation

inductive Rejection where
  | noTrigger
  | noAction
  | noService
  deriving DecidableEq, Repr

def Rejection.message : Rejection → String
  | noTrigger => "Please select a trigger device/condition or choose days/time."
  | noAction => "Choose an action device and action to continue."
  | noService => "None of the chosen actions can run in an automation for this device."

namespace Draft

/-- Why a draft is rejected, given whether its configuration has triggers and actions. -/
def rejection? (draft : Draft) (hasTriggers hasActions : Bool) : Option Rejection :=
  if !hasTriggers && !draft.hasGate then some .noTrigger
  else if draft.actions.isEmpty then some .noAction
  else if !hasActions then some .noService
  else none

def rejectionAs? (draft : Draft) (config : NativeAutomation) : Option Rejection :=
  draft.rejection? (!config.triggers.isEmpty) (!config.actions.isEmpty)

/-- Why a draft is rejected, if it is, when it is to run as the given object. -/
def rejectionAsFields? (draft : Draft) (config : Json.Fields) : Option Rejection :=
  draft.rejection? (!(config.field "trigger").isVoid) (!(config.field "action").isVoid)

def checked (draft : Draft) : Except Rejection NativeAutomation :=
  let config := draft.compile
  match draft.rejectionAs? config with
  | some why => .error why
  | none => .ok config

end Draft

end HomeAutomation
