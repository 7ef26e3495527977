import HomeAutomation.Draft.Basic

/-!
# Specs of the capability catalog

The catalog says what a device offers: trigger specs and action specs, each with the surfaces on
which it is offered. A spec becomes a part of a draft once an entity, and for some actions a number,
is chosen (`TriggerSpec.toTrigger`, `ActionSpec.toAction`). A position spec lists at least one
attribute, and the first one is used.
-/

namespace HomeAutomation

structure SpecInfo where
  id : String
  label : String
  surfaces : List Surface
  deriving DecidableEq

namespace SpecInfo

def isOfferedOn (surface : String) (info : SpecInfo) : Bool :=
  info.surfaces.any fun s => Vocabulary.text s == surface

def read (fields : Json.Fields) : Checked SpecInfo :=
  SpecInfo.mk <$> fields.required (.single "id") Reader.text
    <*> fields.required (.single "label") Reader.text
    <*> fields.orDefault (.single "surfaces") [] (Reader.list Reader.word)

def toFields (info : SpecInfo) : Json.Fields :=
  [("id", .str info.id), ("label", .str info.label),
    ("surfaces", .ofTexts (info.surfaces.map Vocabulary.text))]

end SpecInfo

inductive TriggerSpec where
  | state (info : SpecInfo) (target : SwitchState)
  | delta (info : SpecInfo) (attr : String) (direction : Direction)
  /-- A position is reached; one of several attributes holds it. -/
  | position (info : SpecInfo) (value : Float) (attr : String) (others : List String)
  | time (info : SpecInfo) (clock : String) (days : Option (List Weekday))
  deriving DecidableEq

namespace TriggerSpec

def stateKind : String := "state"

def deltaKind : String := "attribute_delta"

def positionKind : String := "position"

def timeKind : String := "time"

def info : TriggerSpec → SpecInfo
  | state info _ => info
  | delta info _ _ => info
  | position info _ _ _ => info
  | time info _ _ => info

def kind : TriggerSpec → String
  | state .. => stateKind
  | delta .. => deltaKind
  | position .. => positionKind
  | time .. => timeKind

def readState (fields : Json.Fields) : Checked TriggerSpec :=
  (fun info _ target => state info target) <$> SpecInfo.read fields <*> fields.ofKind stateKind
    <*> fields.required ⟨"entityState", "entity_state"⟩ Reader.word

def readDelta (fields : Json.Fields) : Checked TriggerSpec :=
  (fun info _ attr direction => delta info attr direction) <$> SpecInfo.read fields
    <*> fields.ofKind deltaKind
    <*> fields.required (.single "attribute") Reader.text
    <*> fields.required (.single "direction") Reader.word

def readPosition (fields : Json.Fields) : Checked TriggerSpec :=
  (fun info _ value attrs => position info value attrs.1 attrs.2) <$> SpecInfo.read fields
    <*> fields.ofKind positionKind
    <*> fields.required (.single "equals") Reader.number
    <*> fields.required (.single "attributes") (Reader.nonEmptyList Reader.text)

def readTime (fields : Json.Fields) : Checked TriggerSpec :=
  (fun info _ clock days => time info clock days) <$> SpecInfo.read fields
    <*> fields.ofKind timeKind
    <*> fields.required (.single "at") Reader.text
    <*> fields.optional .days (Reader.list Reader.word)

def read : Reader TriggerSpec :=
  Reader.tagged [(stateKind, readState), (deltaKind, readDelta), (positionKind, readPosition),
    (timeKind, readTime)]

def toJson : TriggerSpec → Json
  | state info target =>
    .obj (info.toFields ++ [("kind", .str stateKind),
      ("entityState", .str (Vocabulary.text target))])
  | delta info attr direction =>
    .obj (info.toFields ++ [("kind", .str deltaKind), ("attribute", .str attr),
      ("direction", .str (Vocabulary.text direction))])
  | position info value attr others =>
    .obj (info.toFields ++ [("kind", .str positionKind), ("equals", .double value),
      ("attributes", .ofTexts (attr :: others))])
  | time info clock days =>
    .obj (info.toFields ++ [("kind", .str timeKind), ("at", .str clock),
      ("daysOfWeek", Weekday.listToJson days)])

def toTrigger (entity : String) : TriggerSpec → Trigger
  | state _ target => .state entity (some (Vocabulary.text target)) none
  | delta _ attr direction => .delta entity attr direction
  | position _ value attr _ => .position entity attr value
  | time _ clock days => .time clock days

/-- The trigger for an entity that still has to be read. A time does not look at the entity. -/
def instantiate (entity : Json) (spec : TriggerSpec) : Checked Trigger :=
  match spec with
  | time _ clock days => .valid (.time clock days)
  | _ => spec.toTrigger <$> (Reader.text entity).under (.name Key.entity.plain)

/-- The trigger of a spec of which only the kind is known. A kind that the catalog does not know
stands for any change of the entity; the known kinds need more than that. -/
def ofKind (kind entity : String) : Option Trigger :=
  if [stateKind, deltaKind, positionKind, timeKind].contains kind then none
  else some (.state entity none none)

end TriggerSpec

inductive ActionSpec where
  | button (info : SpecInfo) (command : String) (value : Option Float) (primary : Bool)
  | fixed (info : SpecInfo) (command : String) (value : Float) (primary : Bool)
  | slider (info : SpecInfo) (command : String) (low high : Float) (step : Option Float)
      (primary : Bool)
  | toggle (info : SpecInfo) (commandOn commandOff : String) (primary : Bool)
  deriving DecidableEq

namespace ActionSpec

def buttonKind : String := "button"

def fixedKind : String := "fixed"

def sliderKind : String := "slider"

def toggleKind : String := "toggle"

def info : ActionSpec → SpecInfo
  | button info _ _ _ => info
  | fixed info _ _ _ => info
  | slider info _ _ _ _ _ => info
  | toggle info _ _ _ => info

def kind : ActionSpec → String
  | button .. => buttonKind
  | fixed .. => fixedKind
  | slider .. => sliderKind
  | toggle .. => toggleKind

def readPrimary (fields : Json.Fields) : Checked Bool :=
  fields.orDefault (.single "primary") false Reader.truth

def readButton (fields : Json.Fields) : Checked ActionSpec :=
  (fun info _ command value primary => button info command value primary)
    <$> SpecInfo.read fields <*> fields.ofKind buttonKind
    <*> fields.required (.single "command") Reader.text
    <*> fields.optional (.single "value") Reader.number
    <*> readPrimary fields

def readFixed (fields : Json.Fields) : Checked ActionSpec :=
  (fun info _ command value primary => fixed info command value primary)
    <$> SpecInfo.read fields <*> fields.ofKind fixedKind
    <*> fields.required (.single "command") Reader.text
    <*> fields.required (.single "value") Reader.number
    <*> readPrimary fields

def readSlider (fields : Json.Fields) : Checked ActionSpec :=
  (fun info _ command low high step primary => slider info command low high step primary)
    <$> SpecInfo.read fields <*> fields.ofKind sliderKind
    <*> fields.required (.single "command") Reader.text
    <*> fields.required (.single "min") Reader.number
    <*> fields.required (.single "max") Reader.number
    <*> fields.optional (.single "step") Reader.number
    <*> readPrimary fields

def readToggle (fields : Json.Fields) : Checked ActionSpec :=
  (fun info _ commandOn commandOff primary => toggle info commandOn commandOff primary)
    <$> SpecInfo.read fields <*> fields.ofKind toggleKind
    <*> fields.required ⟨"commandOn", "command_on"⟩ Reader.text
    <*> fields.required ⟨"commandOff", "command_off"⟩ Reader.text
    <*> readPrimary fields

def read : Reader ActionSpec :=
  Reader.tagged [(buttonKind, readButton), (fixedKind, readFixed), (sliderKind, readSlider),
    (toggleKind, readToggle)]

def toJson : ActionSpec → Json
  | button info command value primary =>
    .obj (info.toFields ++ [("kind", .str buttonKind), ("command", .str command),
      ("value", Action.valueToJson value), ("primary", .bool primary)])
  | fixed info command value primary =>
    .obj (info.toFields ++ [("kind", .str fixedKind), ("command", .str command),
      ("value", .double value), ("primary", .bool primary)])
  | slider info command low high step primary =>
    .obj (info.toFields ++ [("kind", .str sliderKind), ("command", .str command),
      ("min", .double low), ("max", .double high), ("step", Action.valueToJson step),
      ("primary", .bool primary)])
  | toggle info commandOn commandOff primary =>
    .obj (info.toFields ++ [("kind", .str toggleKind), ("commandOn", .str commandOn),
      ("commandOff", .str commandOff), ("primary", .bool primary)])

/-- The action for an entity and a chosen number. A switch belongs on the dashboard; an automation
can only switch on. -/
def toAction (entity : String) (choice : Option Float) : ActionSpec → Action
  | button _ command value _ => ⟨entity, command, choice.or value⟩
  | fixed _ command value _ => ⟨entity, command, some value⟩
  | slider _ command _ _ _ _ => ⟨entity, command, choice⟩
  | toggle _ commandOn _ _ => ⟨entity, commandOn, none⟩

def takesChoice : ActionSpec → Bool
  | button .. | slider .. => true
  | fixed .. | toggle .. => false

def instantiate (entity choice : Json) (spec : ActionSpec) : Checked Action :=
  spec.toAction <$> (Reader.text entity).under (.name Key.entity.plain)
    <*> (if spec.takesChoice then (Reader.nullable Reader.number choice).under (.name "value")
      else .valid none)

end ActionSpec

end HomeAutomation
