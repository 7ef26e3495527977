import HomeAutomation.Draft.Action

/-!
# Drafts of automations

A draft is an automation as its author made it: triggers, of which any one starts it, actions that
then run, and a gate of week days and a time of day. It travels as JSON with the wire names of its
fields, either with all of them (`toJson`) or without those that are `null` (`toWire`); `read` reads
both.
-/

namespace HomeAutomation

open Text

structure Draft where
  id : Option String
  title : NonEmptyText
  description : Option String
  mode : Option RunMode
  triggers : List Trigger
  actions : List Action
  days : Option (List Weekday)
  clock : Option String
  deriving DecidableEq

namespace Draft

/-- Reads a draft from its fields; `stray` is the flaw of an action that is not an object. -/
def readFields (stray : Flaw) (fields : Json.Fields) : Checked Draft :=
  Draft.mk <$> fields.optional (.single "id") Reader.text
    <*> fields.required (.single "alias") Reader.nonEmptyText
    <*> fields.optional (.single "description") Reader.text
    <*> fields.optional (.single "mode") Reader.word
    <*> fields.orDefault (.single "triggers") [] (Reader.list Trigger.read)
    <*> fields.orDefault (.single "actions") []
      (Reader.list (Reader.record stray Action.readFields))
    <*> fields.optional .days (Reader.list Reader.word)
    <*> fields.optional ⟨"triggerTime", "trigger_time"⟩ Reader.text

def read : Reader Draft :=
  Reader.record .notRecord (readFields .notRecord)

def readBody : Reader Draft :=
  Reader.record .noFields (readFields .noFields)

def toJson (draft : Draft) : Json :=
  .obj [("id", .ofText? draft.id), ("alias", .str draft.title.val),
    ("description", .ofText? draft.description),
    ("mode", .ofText? (draft.mode.map Vocabulary.text)),
    ("triggers", .arr (draft.triggers.map Trigger.toJson)),
    ("actions", .arr (draft.actions.map Action.toJson)),
    ("daysOfWeek", Weekday.listToJson draft.days), ("triggerTime", .ofText? draft.clock)]

/-- A draft on the wire, without the fields that are `null`. -/
def toWire (draft : Draft) : Json :=
  draft.toJson.withoutNulls

/-- The days on which the automation may run; none means any. -/
def gateDays (draft : Draft) : List Weekday :=
  draft.days.getD []

/-- The time of day at which the automation may run, without blanks; an empty text means any. -/
def gateClock (draft : Draft) : String :=
  strip (draft.clock.getD "")

def hasGate (draft : Draft) : Bool :=
  !draft.gateDays.isEmpty || !draft.gateClock.isEmpty

end Draft

end HomeAutomation
