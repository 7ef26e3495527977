import HomeAutomation.Native.Basic
import HomeAutomation.Json.Display
import HomeAutomation.Text.Blank

/-!
# Describing configurations

One line for each trigger, condition and action of a configuration, and a line for the whole. The
configuration may come from anywhere, so it is read as JSON; only what has no text where one is
needed cannot be described.
-/

namespace HomeAutomation

open Text

inductive DescribeFault where
  | kindNotText
  | dayNotText
  deriving DecidableEq, Repr

namespace Describe

/-- A value as a list: none for a void value, and one for a value that is not a list. -/
def asList (v : Json) : List Json :=
  if v.isVoid then [] else v.items?.getD [v]

/-- The text of a kind without blanks around it; a void kind is an empty text. -/
def kindText (v : Json) : Except DescribeFault String :=
  if v.isVoid then .ok ""
  else
    match v with
    | .str s => .ok (strip s)
    | _ => .error .kindNotText

def joinDays (days : List Json) : Except DescribeFault String := do
  let texts ← days.mapM fun day =>
    match day with
    | .str s => .ok s
    | _ => .error DescribeFault.dayNotText
  return ", ".intercalate texts

def textUnlessNull (v : Json) : String :=
  if v.isNull then "" else v.display

def textUnlessVoid (v : Json) : String :=
  if v.isVoid then "" else v.display

def triggerOfKind (kind : String) : String :=
  if kind.isEmpty then "trigger" else kind ++ " trigger"

def timeTrigger (fields : Json.Fields) : Except DescribeFault String := do
  let clock := fields.field "at"
  let days := fields.field "weekday"
  if clock.isVoid then return "time trigger"
  else if days.isVoid then return "time at " ++ clock.display
  else
    let days ← joinDays (asList days)
    return "time at " ++ clock.display ++ " on " ++ days

def stateTrigger (fields : Json.Fields) : String :=
  let entity := fields.field "entity_id"
  let attr := fields.field "attribute"
  let target := fields.field "to"
  let source := fields.field "from"
  let subject := "state " ++ entity.display
  if entity.isVoid then triggerOfKind "state"
  else if !attr.isVoid then subject ++ " [" ++ attr.display ++ "] changes"
  else if !source.isNull && !target.isNull then
    subject ++ " " ++ source.display ++ " -> " ++ target.display
  else if !target.isNull then subject ++ " -> " ++ target.display
  else if !source.isNull then subject ++ " leaves " ++ source.display
  else subject

def numericTrigger (fields : Json.Fields) : String :=
  let entity := fields.field "entity_id"
  let attr := fields.field "attribute"
  let target :=
    if attr.isVoid then entity.display else entity.display ++ " [" ++ attr.display ++ "]"
  strip ("numeric " ++ target ++ " " ++ textUnlessNull (fields.field "above") ++ "-" ++
    textUnlessNull (fields.field "below"))

def trigger : Json → Except DescribeFault String
  | .obj fields => do
    let kind ← kindText ((Json.Fields.field fields "platform").orElse
      (Json.Fields.field fields "trigger"))
    if kind = "time" then timeTrigger fields
    else if kind = "state" then return stateTrigger fields
    else if kind = "numeric_state" then return numericTrigger fields
    else return triggerOfKind kind
  | _ => return "trigger"

def timeCondition (fields : Json.Fields) : Except DescribeFault String := do
  let days := asList (fields.field "weekday")
  let after := fields.field "after"
  let before := fields.field "before"
  let dayPart ← if days.isEmpty then pure [] else (fun text => [text]) <$> joinDays days
  let clockPart :=
    if after.isVoid && before.isVoid then []
    else [textUnlessVoid after ++ "-" ++ textUnlessVoid before]
  return strip ("time " ++ " ".intercalate (dayPart ++ clockPart))

def condition : Json → Except DescribeFault String
  | .obj fields => do
    let kind ← kindText (Json.Fields.field fields "condition")
    if kind = "time" then timeCondition fields
    else if kind = "template" then return "template check"
    else if kind.isEmpty then return "condition"
    else return kind ++ " condition"
  | _ => return "condition"

def serviceData (data : Json) : String :=
  match data with
  | .obj fields => ", ".intercalate (fields.map fun (name, v) => name ++ "=" ++ v.display)
  | _ => ""

def serviceCall (fields : Json.Fields) : String :=
  let entity :=
    match fields.field "target" with
    | .obj target => Json.Fields.field target "entity_id"
    | _ => .null
  let call := "service " ++ (fields.field "service").display
  let text := if entity.isVoid then call else call ++ " -> " ++ entity.display
  let extra := serviceData (fields.field "data")
  if extra.isEmpty then text else text ++ " (" ++ extra ++ ")"

def action : Json → String
  | .obj fields => if Json.Fields.has fields "service" then serviceCall fields else "action"
  | _ => "action"

end Describe

structure Description where
  basic : String
  triggers : String
  conditions : String
  actions : String
  deriving DecidableEq, Repr

namespace Description

def ofFields (config : Json.Fields) : Except DescribeFault Description := do
  let triggers ← (Describe.asList (config.field "trigger")).mapM Describe.trigger
  let conditions ← (Describe.asList (config.field "condition")).mapM Describe.condition
  let actions := (Describe.asList (config.field "action")).map Describe.action
  let title := ((config.field "alias").orElse (.str "Automation")).display
  return {
    basic := title ++ ": " ++ toString triggers.length ++ " trigger(s), " ++
      toString actions.length ++ " action(s)"
    triggers := "; ".intercalate triggers
    conditions := "; ".intercalate conditions
    actions := "; ".intercalate actions }

def toFields (d : Description) : Json.Fields :=
  [("basicSummary", .str d.basic), ("triggerSummary", .str d.triggers),
    ("conditionSummary", .str d.conditions), ("actionSummary", .str d.actions)]

end Description

end HomeAutomation
