import HomeAutomation.Validation.Reader

/-!
# Triggers of a draft

A trigger says what starts an automation: an entity changes its state, an attribute moves in one
direction, a cover arrives at a position, or the clock shows a time. `Trigger.toJson` writes every
field under its wire name, and `Trigger.read` reads that back.
-/

namespace HomeAutomation

inductive Trigger where
  /-- The entity changes its state, perhaps only from one given state or to one. -/
  | state (entity : String) (target source : Option String)
  /-- The attribute of the entity moves in the direction. -/
  | delta (entity attr : String) (direction : Direction)
  /-- The attribute of the entity arrives at the value. -/
  | position (entity attr : String) (value : Float)
  /-- The clock shows the time, perhaps only on some days. -/
  | time (clock : String) (days : Option (List Weekday))
  deriving DecidableEq

def Weekday.listToJson : Option (List Weekday) → Json
  | some days => .ofTexts (days.map Vocabulary.text)
  | none => .null

namespace Key

def entity : Key := ⟨"entityId", "entity_id"⟩

def source : Key := ⟨"from", "from_"⟩

def days : Key := ⟨"daysOfWeek", "days_of_week"⟩

end Key

namespace Trigger

def stateKind : String := "state"

def deltaKind : String := "numeric_delta"

def positionKind : String := "position_equals"

def timeKind : String := "time"

def defaultAttribute : String := "state"

def kind : Trigger → String
  | state .. => stateKind
  | delta .. => deltaKind
  | position .. => positionKind
  | time .. => timeKind

def readState (fields : Json.Fields) : Checked Trigger :=
  (fun _ entity target source => state entity target source) <$> fields.ofKind stateKind
    <*> fields.required .entity Reader.text
    <*> fields.optional (.single "to") Reader.text
    <*> fields.optional .source Reader.text

def readDelta (fields : Json.Fields) : Checked Trigger :=
  (fun _ entity attr direction => delta entity attr direction)
    <$> fields.ofKind deltaKind
    <*> fields.required .entity Reader.text
    <*> fields.orDefault (.single "attribute") defaultAttribute Reader.text
    <*> fields.required (.single "direction") Reader.word

def readPosition (fields : Json.Fields) : Checked Trigger :=
  (fun _ entity attr value => position entity attr value)
    <$> fields.ofKind positionKind
    <*> fields.required .entity Reader.text
    <*> fields.required (.single "attribute") Reader.text
    <*> fields.required (.single "value") Reader.number

def readTime (fields : Json.Fields) : Checked Trigger :=
  (fun _ clock days => time clock days) <$> fields.ofKind timeKind
    <*> fields.required (.single "at") Reader.text
    <*> fields.optional .days (Reader.list Reader.word)

def read : Reader Trigger :=
  Reader.tagged [(stateKind, readState), (deltaKind, readDelta), (positionKind, readPosition),
    (timeKind, readTime)]

def toJson : Trigger → Json
  | state entity target source =>
    .obj [("kind", .str stateKind), ("entityId", .str entity), ("to", .ofText? target),
      ("from", .ofText? source)]
  | delta entity attr direction =>
    .obj [("kind", .str deltaKind), ("entityId", .str entity), ("attribute", .str attr),
      ("direction", .str (Vocabulary.text direction))]
  | position entity attr value =>
    .obj [("kind", .str positionKind), ("entityId", .str entity), ("attribute", .str attr),
      ("value", .double value)]
  | time clock days =>
    .obj [("kind", .str timeKind), ("at", .str clock), ("daysOfWeek", Weekday.listToJson days)]

end Trigger

end HomeAutomation
