import HomeAutomation.Json.Basic
import HomeAutomation.Text.Quoted

/-!
# Writing JSON

`Json.render` writes a value as JSON in ASCII: a space follows every comma and colon, and each
character beyond ASCII is escaped by its UTF-16 code units.
-/

namespace HomeAutomation.Json

open Text

def unitEscape (unit : Nat) : List Char :=
  '\\' :: 'u' :: hexadecimal 4 unit

def renderChar (c : Char) : List Char :=
  let n := c.toNat
  if c = '"' ∨ c = '\\' then ['\\', c]
  else if c = '\n' then ['\\', 'n']
  else if c = '\r' then ['\\', 'r']
  else if c = '\t' then ['\\', 't']
  else if n = 8 then ['\\', 'b']
  else if n = 12 then ['\\', 'f']
  else if 0x20 ≤ n ∧ n < 0x7F then [c]
  else if n < 0x10000 then unitEscape n
  else
    unitEscape (0xD800 + (n - 0x10000) / 0x400) ++ unitEscape (0xDC00 + (n - 0x10000) % 0x400)

def renderText (s : String) : String :=
  String.ofList ('"' :: s.toList.flatMap renderChar ++ ['"'])

mutual

def render : Json → String
  | .null => "null"
  | .bool b => if b then "true" else "false"
  | .int n => toString n
  | .double x => DoubleLayout.interchange.write x
  | .str s => renderText s
  | .arr items => "[" ++ ", ".intercalate (renderItems items) ++ "]"
  | .obj fields => "\x7b" ++ ", ".intercalate (renderFields fields) ++ "\x7d"

def renderItems : List Json → List String
  | [] => []
  | v :: rest => v.render :: renderItems rest

def renderFields : List (String × Json) → List String
  | [] => []
  | (name, v) :: rest => (renderText name ++ ": " ++ v.render) :: renderFields rest

end

end HomeAutomation.Json
