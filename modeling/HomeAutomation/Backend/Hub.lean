import HomeAutomation.Backend.Connection
import HomeAutomation.Backend.Failure
import HomeAutomation.Backend.Listed
import HomeAutomation.Text.Percent

/-!
# The hub

The hub runs the automations of one home and is asked directly, with the token of the connection.
It keeps each configuration under its id. A good answer whose body is not JSON is `null`.
-/

namespace HomeAutomation

open Text

structure Hub where
  url : String
  token : String
  timeout : Number
  deriving DecidableEq

namespace Hub

abbrev Attempt (α : Type) := Dialogue (Except (Failure HubError) α)

def ofConnection? (connection : Option HubConnection) (mode : HubMode) (timeout : Number) :
    Option Hub := do
  let c ← connection
  let url ← nonEmpty? (c.url? mode)
  return ⟨stripEndSlashes url, c.token, timeout⟩

def headers (hub : Hub) : List (String × String) :=
  [("Authorization", "Bearer " ++ hub.token), ("Content-Type", "application/json")]

def conclude (hub : Hub) : Reply → Except (Failure HubError) Json
  | .ok r =>
    if r.isOk then .ok (r.value?.getD .null)
    else .error (.told (.declined r.status (strip r.text)))
  | .error fault => .error (.ofFault (.unreachable hub.url) fault)

def rooted (path : String) : String :=
  if beginsWith "/" path then path else "/" ++ path

def request (hub : Hub) (method path : String) (body : Json) : Attempt Json :=
  .ask ⟨method, hub.url ++ rooted path, hub.headers, body, hub.timeout⟩ fun reply =>
    .done (hub.conclude reply)

def states (hub : Hub) : Attempt Json :=
  (hub.request "GET" "/api/states" .null).map fun r =>
    r.map fun value => .arr (value.items?.getD [])

def callService (hub : Hub) (domain service : String) (data : Json) : Attempt Json :=
  hub.request "POST" ("/api/services/" ++ domain ++ "/" ++ service) (data.orElse (.obj []))

def configPath (id : String) : String :=
  "/api/config/automation/config/" ++ Percent.encode id

def list (hub : Hub) : Attempt (List ListedAutomation) :=
  hub.states.map fun r => r.map ListedAutomation.ofStates

/-- Writes the configuration of an automation, whether there is one already or not. -/
def upsert (hub : Hub) (id : WideText) (config : Json.Fields) : Attempt Unit :=
  .addressed id fun s =>
    (hub.request "POST" (configPath s) (.obj (config.insert "id" (.str s)))).perform

def delete (hub : Hub) (id : WideText) : Attempt Unit :=
  .addressed id fun s => (hub.request "DELETE" (configPath s) .null).perform

/-- Switches an automation on or off. The id stands in the body. -/
def setEnabled (hub : Hub) (id : String) (enabled : Bool) : Attempt Unit :=
  (hub.callService "automation" (if enabled then "turn_on" else "turn_off")
    (.obj [("entity_id", .str (automationEntity id))])).perform

end Hub

end HomeAutomation
