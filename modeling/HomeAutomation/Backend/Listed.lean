import HomeAutomation.Json.Display
import HomeAutomation.Text.Part
import HomeAutomation.Validation.Reader

/-!
# Automations as the backends list them

The hub lists the states of all entities, among them those of its automations; the platform lists
automations. Both lists come from outside and may hold anything: `ListedAutomation.ofStates` and
`ListedAutomation.ofItems` take what can be read as an automation and pass over the rest.
-/

namespace HomeAutomation

open Text

structure ListedAutomation where
  id : String
  title : String
  description : Option String
  enabled : Bool
  basicSummary : Option String
  triggerSummary : Option String
  actionSummary : Option String
  deriving DecidableEq

def automationPrefix : String := "automation."

def automationEntity (id : String) : String :=
  if beginsWith automationPrefix id then id else automationPrefix ++ id

namespace ListedAutomation

def readFields (fields : Json.Fields) : Checked ListedAutomation :=
  ListedAutomation.mk <$> fields.required (.single "id") Reader.text
    <*> fields.required (.single "alias") Reader.text
    <*> fields.optional (.single "description") Reader.text
    <*> fields.orDefault (.single "enabled") true Reader.truth
    <*> fields.optional ⟨"basicSummary", "basic_summary"⟩ Reader.text
    <*> fields.optional ⟨"triggerSummary", "trigger_summary"⟩ Reader.text
    <*> fields.optional ⟨"actionSummary", "action_summary"⟩ Reader.text

def read : Reader ListedAutomation :=
  Reader.record .notRecord readFields

def toJson (item : ListedAutomation) : Json :=
  .obj [("id", .str item.id), ("alias", .str item.title),
    ("description", .ofText? item.description), ("enabled", .bool item.enabled),
    ("basicSummary", .ofText? item.basicSummary),
    ("triggerSummary", .ofText? item.triggerSummary),
    ("actionSummary", .ofText? item.actionSummary)]

/-- The text of the value under a name, or another text if that value is void. -/
def textOr (fields : Json.Fields) (name other : String) : String :=
  ((fields.field name).orElse (.str other)).display

def ofState? (state : Json) : Option ListedAutomation := do
  let fields ← state.fields?
  let entity ← (fields.field "entity_id").text?
  if beginsWith automationPrefix entity then
    let attrs := ((fields.field "attributes").fields?).getD []
    some
      { id := textOr attrs "id" (dropStart automationPrefix entity)
        title := textOr attrs "friendly_name" entity
        description := some (textOr attrs "description" "")
        enabled := lower (textOr fields "state" "") != "off"
        basicSummary := none
        triggerSummary := none
        actionSummary := none }
  else none

def ofStates (states : Json) : List ListedAutomation :=
  (states.items?.getD []).filterMap ofState?

/-- The automation in an item of the platform's list. It is enabled as the item says, or else
unless its state is off. -/
def ofItem (fields : Json.Fields) : ListedAutomation :=
  { id := ((fields.field "id").orElse ((fields.field "entity_id").orElse
      ((fields.field "slug").orElse (.str "")))).display
    title := ((fields.field "alias").orElse ((fields.field "name").orElse
      (.str "Automation"))).display
    description := some ((fields.field "description").text?.getD "")
    enabled :=
      match fields.field "enabled" with
      | .null => (fields.field "state").text? != some "off"
      | v => !v.isVoid
    basicSummary := (fields.field "basicSummary").text?
    triggerSummary := (fields.field "triggerSummary").text?
    actionSummary := (fields.field "actionSummary").text? }

def ofItems (body : Json) : List ListedAutomation :=
  (body.items?.getD []).filterMap fun item => item.fields?.map ofItem

end ListedAutomation

end HomeAutomation
