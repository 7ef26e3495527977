import HomeAutomation.Capability.Spec

/-!
# Capabilities of a device

A capability lists the triggers and actions that a device offers. `onSurface` keeps those that are
offered on one surface, and `author` makes a draft of all of them.
-/

namespace HomeAutomation

structure Capability where
  triggers : List TriggerSpec
  actions : List ActionSpec
  excluded : Bool
  deriving DecidableEq

namespace Capability

def authoringSurface : String := "automation"

def readFields (fields : Json.Fields) : Checked Capability :=
  Capability.mk <$> fields.orDefault (.single "triggers") [] (Reader.list TriggerSpec.read)
    <*> fields.orDefault (.single "actions") [] (Reader.list ActionSpec.read)
    <*> fields.orDefault ⟨"excludeFromAutomations", "exclude_from_automations"⟩ false Reader.truth

def read : Reader Capability :=
  Reader.record .notRecord readFields

def toJson (capability : Capability) : Json :=
  .obj [("triggers", .arr (capability.triggers.map TriggerSpec.toJson)),
    ("actions", .arr (capability.actions.map ActionSpec.toJson)),
    ("excludeFromAutomations", .bool capability.excluded)]

def onSurface (surface : String) (capability : Capability) : Capability :=
  { capability with
    triggers := capability.triggers.filter fun spec => spec.info.isOfferedOn surface
    actions := capability.actions.filter fun spec => spec.info.isOfferedOn surface }

def toDraft (capability : Capability) (surface : String) (title : NonEmptyText) (entity : String)
    (choice : Option Float) : Draft :=
  let offered := capability.onSurface surface
  { id := none
    title
    description := none
    mode := none
    triggers := offered.triggers.map (TriggerSpec.toTrigger entity)
    actions := offered.actions.map (ActionSpec.toAction entity choice)
    days := none
    clock := none }

/-- The draft that holds every spec of a surface, for an entity, a number and a title that still
have to be read. The parts are made one after the other, and the first one that fails ends it. -/
def author (capability : Capability) (surface : String) (title entity choice : Json) :
    Except (List Issue) Draft := do
  let offered := capability.onSurface surface
  let triggers ← offered.triggers.mapM fun spec => (spec.instantiate entity).toExcept
  let actions ← offered.actions.mapM fun spec => (spec.instantiate entity choice).toExcept
  let title ← ((Reader.nonEmptyText title).under (.name "alias")).toExcept
  return ⟨none, title, none, none, triggers, actions, none, none⟩

end Capability

end HomeAutomation
