import HomeAutomation.Json.Basic
import HomeAutomation.Text.Quoted

/-!
# Showing values to people

`Json.display` gives the text that stands for a value inside a sentence. A text stands for itself;
inside lists and objects texts are quoted, so that their ends can be seen.
-/

namespace HomeAutomation.Json

open Text

mutual

def inspect : Json → String
  | .null => "None"
  | .bool b => if b then "True" else "False"
  | .int n => toString n
  | .double x => DoubleLayout.plain.write x
  | .str s => quoted s
  | .arr items => "[" ++ ", ".intercalate (inspectItems items) ++ "]"
  | .obj fields => "\x7b" ++ ", ".intercalate (inspectFields fields) ++ "\x7d"

def inspectItems : List Json → List String
  | [] => []
  | v :: rest => v.inspect :: inspectItems rest

def inspectFields : List (String × Json) → List String
  | [] => []
  | (name, v) :: rest => (quoted name ++ ": " ++ v.inspect) :: inspectFields rest

end

/-- The text of a value inside a sentence. -/
def display : Json → String
  | .str s => s
  | v => v.inspect

end HomeAutomation.Json
