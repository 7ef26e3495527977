import HomeAutomation.Native.Service
import HomeAutomation.Native.DeltaTest
import HomeAutomation.Native.Window
import HomeAutomation.Draft.Trigger

/-!
# Configurations of the hub

A configuration is an automation in the form that the hub runs. Any one of the triggers starts it;
it goes on if all conditions hold, and then carries out the actions in order. `toJson` writes it in
the hub's own schema. What is absent is left out there, so nothing in it is ever `null`.
-/

namespace HomeAutomation

inductive NativeTrigger where
  | state (entity : String) (attr target source : Option String)
  | numericState (entity attr : String) (above below : Float)
  | time (clock : String) (days : Option (List Weekday))
  deriving DecidableEq

namespace NativeTrigger

def optionalField (name : String) : Option String → Json.Fields
  | some s => [(name, .str s)]
  | none => []

def daysField : Option (List Weekday) → Json.Fields
  | some days => [("weekday", Weekday.listToJson (some days))]
  | none => []

def toJson : NativeTrigger → Json
  | state entity attr target source =>
    .obj ([("platform", .str "state"), ("entity_id", .str entity)] ++
      optionalField "attribute" attr ++ optionalField "to" target ++ optionalField "from" source)
  | numericState entity attr above below =>
    .obj [("platform", .str "numeric_state"), ("entity_id", .str entity), ("attribute", .str attr),
      ("above", .double above), ("below", .double below)]
  | time clock days =>
    .obj ([("platform", .str "time"), ("at", .str clock)] ++ daysField days)

end NativeTrigger

inductive Condition where
  | time (days : List Weekday) (window : Option Window)
  | template (test : DeltaTest)
  deriving DecidableEq

namespace Condition

def daysField (days : List Weekday) : Json.Fields :=
  if days.isEmpty then [] else [("weekday", Weekday.listToJson (some days))]

def windowFields : Option Window → Json.Fields
  | some window => [("after", .str window.start), ("before", .str window.stop)]
  | none => []

def toJson : Condition → Json
  | time days window =>
    .obj (("condition", .str "time") :: daysField days ++ windowFields window)
  | template test =>
    .obj [("condition", .str "template"), ("value_template", .str test.template)]

end Condition

structure NativeAction where
  service : Service
  entity : String
  deriving DecidableEq

namespace NativeAction

def dataToJson : String × Number → Json
  | (name, value) => .obj [(name, .ofNumber value)]

def toJson (action : NativeAction) : Json :=
  .obj ([("service", .str action.service.name),
      ("target", .obj [("entity_id", .str action.entity)])] ++
    (action.service.data.map fun data => ("data", dataToJson data)).toList)

end NativeAction

structure NativeAutomation where
  id : Option String
  title : String
  description : String
  triggers : List NativeTrigger
  actions : List NativeAction
  mode : RunMode
  conditions : List Condition
  deriving DecidableEq

namespace NativeAutomation

def conditionsField (conditions : List Condition) : Json.Fields :=
  if conditions.isEmpty then [] else [("condition", .arr (conditions.map Condition.toJson))]

def toFields (config : NativeAutomation) : Json.Fields :=
  NativeTrigger.optionalField "id" config.id ++
    [("alias", .str config.title), ("description", .str config.description),
      ("trigger", .arr (config.triggers.map NativeTrigger.toJson)),
      ("action", .arr (config.actions.map NativeAction.toJson)),
      ("mode", .str (Vocabulary.text config.mode))] ++
    conditionsField config.conditions

def toJson (config : NativeAutomation) : Json :=
  .obj config.toFields

end NativeAutomation

end HomeAutomation
