import HomeAutomation.Json.Display

/-!
# Ids of automations on the hub

The hub keeps an automation under its id. An automation without one is kept under its name, and one
without a name under an id made from the time. The time is looked at only in that case
(`configIdAt`).
-/

namespace HomeAutomation

def generatedId (clock : Int) : String :=
  "automation_" ++ toString clock

/-- The id under which the hub keeps an automation: its own, else its name, else a generated one. -/
def configId (config : Json.Fields) (clock : Int) : String :=
  ((config.field "id").orElse ((config.field "alias").orElse (.str (generatedId clock)))).display

inductive ClockFault where
  | infinite
  | undefined
  | oversized
  deriving DecidableEq, Repr

def milliseconds (seconds : Number) : Except ClockFault Int :=
  match seconds with
  | .int n => .ok (n * 1000)
  | .double x =>
    match Exact.ofDouble (x * 1000.0) with
    | .undefined => .error .undefined
    | .infinite _ => .error .infinite
    | .finite negative mantissa exponent => .ok (Exact.truncate negative mantissa exponent)

/-- The time, if it has no more digits than are written. -/
def writable (clock : Int) : Except ClockFault Int :=
  if Text.maxDigits < (Text.natDigits clock.natAbs).length then .error .oversized else .ok clock

def configIdAt (config : Json.Fields) (seconds : Number) : Except ClockFault String :=
  if ((config.field "id").orElse (config.field "alias")).isVoid then
    (milliseconds seconds >>= writable).map (configId config)
  else .ok (configId config 0)

end HomeAutomation
