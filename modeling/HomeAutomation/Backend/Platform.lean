import HomeAutomation.Backend.Failure
import HomeAutomation.Backend.Listed
import HomeAutomation.Text.Percent

/-!
# The platform

The platform manages automations for many homes. It is asked over its web address; without one,
every attempt fails before anything is asked. An answer counts as done only if its status is good
and its body does not say otherwise (`Platform.check`).
-/

namespace HomeAutomation

open Text

structure Platform where
  /-- The address without slashes at its end; empty if there is none. -/
  url : String
  timeout : Number
  deriving DecidableEq

namespace Platform

abbrev Attempt (α : Type) := Dialogue (Except (Failure PlatformError) α)

def ofUrl (url : Option String) (timeout : Number) : Platform :=
  ⟨stripEndSlashes (strip (url.getD "")), timeout⟩

/-- The platform at an address in JSON; none if the address is neither void nor a text. -/
def ofJson? (url : Json) (timeout : Number) : Option Platform :=
  if url.isVoid then some (ofUrl none timeout)
  else url.text?.map fun s => ofUrl (some s) timeout

def checkValue (status : Int) (value : Json) : Except PlatformError Json :=
  match value with
  | .obj fields =>
    let detail := (Json.Fields.field fields "error").text?.filter fun s => !isBlankText s
    match detail, Json.Fields.field fields "ok" with
    | some s, _ => .error (.reported status (some s))
    | none, .bool false => .error (.reported status none)
    | none, _ => .ok value
  | _ => .ok value

/-- What an answer of the platform comes to. A good answer without JSON is `null`. -/
def check (r : Response) : Except PlatformError Json :=
  if r.isOk then
    match r.value? with
    | some value => checkValue r.status value
    | none => .ok .null
  else if r.status = 401 ∨ r.status = 403 then .error (.sessionExpired r.status)
  else .error (.declined r.status (strip r.text))

def conclude : Reply → Except (Failure PlatformError) Json
  | .ok r =>
    match check r with
    | .ok value => .ok value
    | .error e => .error (.told e)
  | .error fault => .error (PlatformError.ofFault fault)

def request (platform : Platform) (method path : String) (body : Json) : Attempt Json :=
  if platform.url.isEmpty then .done (.error (.told .notConfigured))
  else
    .ask ⟨method, platform.url ++ path, [("Content-Type", "application/json")], body,
      platform.timeout⟩ fun reply => .done (conclude reply)

def automationsPath : String := "/api/automations"

def automationPath (id : String) : String :=
  automationsPath ++ "/" ++ Percent.encode id

def list (platform : Platform) : Attempt (List ListedAutomation) :=
  (platform.request "GET" automationsPath .null).map fun r => r.map ListedAutomation.ofItems

def create (platform : Platform) (payload : Json) : Attempt Unit :=
  (platform.request "POST" automationsPath payload).perform

def update (platform : Platform) (id : WideText) (payload : Json) : Attempt Unit :=
  .addressed id fun s => (platform.request "PUT" (automationPath s) payload).perform

def delete (platform : Platform) (id : WideText) : Attempt Unit :=
  .addressed id fun s => (platform.request "DELETE" (automationPath s) .null).perform

def setEnabled (platform : Platform) (id : WideText) (enabled : Bool) : Attempt Unit :=
  .addressed id fun s =>
    (platform.request "POST" (automationPath s ++ (if enabled then "/enable" else "/disable"))
      .null).perform

end Platform

end HomeAutomation
