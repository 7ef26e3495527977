import HomeAutomation.Draft.Trigger

/-!
# Actions of a draft

An action gives a command to one entity, perhaps with a number. The domain of the entity, which is
the part of its name in front of the first point, decides what the command means to the hub.
-/

namespace HomeAutomation

open Text

structure Action where
  entity : String
  command : String
  value : Option Float
  deriving DecidableEq

/-- The domain of an entity, in lower case. -/
def entityDomain (entity : String) : String :=
  lower (String.ofList (entity.toList.takeWhile (· != '.')))

namespace Action

def kind : String := "device_command"

def domain (action : Action) : String :=
  entityDomain action.entity

def readFields (fields : Json.Fields) : Checked Action :=
  (fun _ entity command value => ⟨entity, command, value⟩) <$> fields.ofKind kind
    <*> fields.required .entity Reader.text
    <*> fields.required (.single "command") Reader.text
    <*> fields.optional (.single "value") Reader.number

def valueToJson : Option Float → Json
  | some x => .double x
  | none => .null

def toJson (action : Action) : Json :=
  .obj [("kind", .str kind), ("entityId", .str action.entity), ("command", .str action.command),
    ("value", valueToJson action.value)]

end Action

end HomeAutomation
