import HomeAutomation.Text.Lowercase
import HomeAutomation.Text.Part
import HomeAutomation.Validation.Vocabulary

/-!
# Delta tests

The hub starts an automation on every change of an entity. A delta test lets it go on only if a
value of the entity moved far enough in one direction; it is given to the hub as a template over
the states before and after the change. The value is the state itself or an attribute, whose name
is put between double quotes as it is.
-/

namespace HomeAutomation

open Text

structure DeltaTest where
  direction : Direction
  /-- The attribute that holds the value; `stateName` for the state itself. -/
  attr : String
  deriving DecidableEq

namespace DeltaTest

def stateName : String := "state"

def isTemperature (attr : String) : Bool :=
  contains "temp" (lower attr)

/-- How far the value has to move: a degree for temperatures, else a hundredth. -/
def threshold (attr : String) : Float :=
  if isTemperature attr then 1.0 else 0.01

def thresholdText (attr : String) : String :=
  if isTemperature attr then "1" else "0.01"

def path (attr : String) : String :=
  if attr = stateName then "state" else "attributes[\"" ++ attr ++ "\"]"

/-- The value before the change, zero if it is not there. -/
def before (attr : String) : String :=
  "(trigger.from_state." ++ path attr ++ " | float(0))"

def after (attr : String) : String :=
  "(trigger.to_state." ++ path attr ++ " | float(0))"

def difference (test : DeltaTest) : String :=
  match test.direction with
  | .decrease => "(" ++ before test.attr ++ " - " ++ after test.attr ++ ")"
  | .increase => "(" ++ after test.attr ++ " - " ++ before test.attr ++ ")"

def template (test : DeltaTest) : String :=
  "\x7b\x7b " ++ test.difference ++ " >= " ++ thresholdText test.attr ++ " \x7d\x7d"

end DeltaTest

end HomeAutomation
