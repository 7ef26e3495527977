import HomeAutomation.Backend.Friendly
import HomeAutomation.Backend.Fallback
import HomeAutomation.Native.Description
import HomeAutomation.Http.Endpoint
import HomeAutomation.Settings
import HomeAutomation.Yaml.Printer

/-!
# The server

The server offers the operations on automations over HTTP. `Http.answer` is the dialogue that a
request starts: what the backends are asked, and what the client is told in the end. A request has
to show the secret of the settings, if there is one, before its body is looked at; a body that is
not JSON at all is refused even earlier.
-/

namespace HomeAutomation

open Text

namespace Http

abbrev Reaction := Dialogue HttpAnswer

def secretHeader : String := "X-HA-Agent-Secret"

def isAuthorized (settings : Settings) (r : HttpRequest) : Bool :=
  settings.secret.isEmpty || (r.header? secretHeader).getD "" == settings.secret

def refusal? (settings : Settings) (r : HttpRequest) : Endpoint.Guard → Option HttpAnswer
  | .secret => if isAuthorized settings r then none else some (.refusal 401 "Unauthorized")

def backends (settings : Settings) : Backends :=
  ⟨.ofUrl settings.platformUrl (.double settings.platformTimeout), .double settings.hubTimeout⟩

def mode (settings : Settings) (r : HttpRequest) : HubMode :=
  .ofText (some ((nonEmpty? (r.parameter? "mode")).getD settings.hubMode))

def access (settings : Settings) (r : HttpRequest) : Access :=
  ⟨settings.connection?, mode settings r⟩

/-- What the client is told of an error. What the transport of a server raises is never one of the
program's own errors, those of backends apart, so nothing is known of a foreign fault. -/
def failure : OperationError → HttpAnswer
  | .rejected why => .refusal 400 (friendly why.message)
  | .failed error _ => .refusal 502 (friendly error.message)
  | .foreign _ => .broken

def outcome (extra : Json.Fields) : Except OperationError Outcome → HttpAnswer
  | .ok (.accepted backend) =>
    .ok ([("ok", .bool true), ("backend", .str backend.text)] ++ extra)
  | .ok (.refused error) => .refusal 502 (friendly error.message)
  | .error why => failure why

def list (settings : Settings) (r : HttpRequest) : Reaction :=
  ((backends settings).list (access settings r)).map fun
    | .ok (_, items) => .ok [("items", .arr (items.map ListedAutomation.toJson))]
    | .error why => failure why

/-- The preview of a draft: its configuration, whether it is accepted, and what it says. A number
that JSON cannot hold breaks the preview. -/
def preview (draft : Draft) : HttpAnswer :=
  let config := draft.compile
  let error := (draft.rejectionAs? config).map Rejection.message
  match Description.ofFields config.toFields with
  | .ok description =>
    if config.toJson.isFinite then
      .ok ([("ok", .bool error.isNone), ("error", .ofText? error), ("config", config.toJson),
        ("yaml", .str (Yaml.render config.toJson))] ++ description.toFields)
    else .broken
  | .error _ => .broken

def withDraft (content : HttpRequest.Content) (next : Draft → Reaction) : Reaction :=
  match content with
  | .value v =>
    match Draft.readBody v with
    | .valid draft => next draft
    | .invalid issues => .done (.refused v issues)
  | _ => .done (.unprocessable [⟨[], .missing⟩])

def onWords : List String := ["on", "true", "1"]

def offWords : List String := ["off", "false", "0"]

inductive StateFault where
  | absent
  | unknownWord
  deriving DecidableEq, Repr

def StateFault.message : StateFault → String
  | absent => "state or enabled is required"
  | unknownWord => "state must be 'on' or 'off'"

/-- Whether a body switches on or off: by `enabled` if that is there, else by the word under
`state`. -/
def wanted (fields : Json.Fields) : Except StateFault Bool :=
  match fields.field "enabled", fields.field "state" with
  | .null, .null => .error .absent
  | .null, state =>
    let word := lower (strip state.display)
    if onWords.contains word then .ok true
    else if offWords.contains word then .ok false
    else .error .unknownWord
  | enabled, _ => .ok (!enabled.isVoid)

def setState (settings : Settings) (r : HttpRequest) (id : String) (fields : Json.Fields) :
    Reaction :=
  match wanted fields with
  | .error fault => .done (.refusal 400 fault.message)
  | .ok enabled =>
    ((backends settings).setEnabled (access settings r) id enabled).map
      (outcome [("id", .str id), ("enabled", .bool enabled)])

/-- Goes on with the fields of a body; without a body there are none. -/
def withFields (content : HttpRequest.Content) (next : Json.Fields → Reaction) : Reaction :=
  match content with
  | .value (.obj fields) => next fields
  | .value v => .done (.refused v [⟨[], .notObject⟩])
  | _ => next []

def serve (settings : Settings) (clock : Int) (r : HttpRequest) (content : HttpRequest.Content) :
    Endpoint → Reaction
  | .health => .done (.ok [("ok", .bool true)])
  | .list => list settings r
  | .compile => withDraft content fun draft => .done (preview draft)
  | .create => withDraft content fun draft =>
    ((backends settings).create (access settings r) clock draft).map (outcome [])
  | .update id => withDraft content fun draft =>
    ((backends settings).update (access settings r) clock id draft).map (outcome [("id", .str id)])
  | .delete id =>
    ((backends settings).delete (access settings r) id).map (outcome [("id", .str id)])
  | .setState id => withFields content (setState settings r id)

/-- Asks the guards of an endpoint before it reacts. -/
def guarded (settings : Settings) (r : HttpRequest) (endpoint : Endpoint) (reaction : Reaction) :
    Reaction :=
  match endpoint.guards.findSome? (refusal? settings r) with
  | some refusal => .done refusal
  | none => reaction

/-- All endpoints but one have the same guard. -/
theorem guarded_eq (settings : Settings) (r : HttpRequest) (endpoint : Endpoint)
    (reaction : Reaction) :
    guarded settings r endpoint reaction =
      if endpoint = .health || isAuthorized settings r then reaction
      else .done (.refusal 401 "Unauthorized") := by
  cases hauthorized : isAuthorized settings r <;>
    cases endpoint <;> simp [guarded, Endpoint.guards, refusal?, hauthorized]

def takesBody : Endpoint → Bool
  | .health | .list | .delete _ => false
  | .compile | .create | .update _ | .setState _ => true

def atEndpoint (settings : Settings) (clock : Int) (r : HttpRequest) (endpoint : Endpoint) :
    Reaction :=
  let content := if takesBody endpoint then r.content else .absent
  match content with
  | .malformed position => .done (.unprocessable [⟨[.index position], .badJson⟩])
  | .unreadable => .done (.refusal 400 "There was an error parsing the body")
  | content =>
    guarded settings r endpoint (serve settings clock r content endpoint)

/-- What the client is told when there is no endpoint. No body goes out when only the head of the
answer is asked for. -/
def noEndpoint (method : String) (status : Nat) (detail : String) : HttpAnswer :=
  if method = "HEAD" then ⟨status, .text ""⟩ else .refusal status detail

def answer (settings : Settings) (clock : Int) (r : HttpRequest) : Reaction :=
  match Endpoint.find r.method r.path with
  | .found endpoint => atEndpoint settings clock r endpoint
  | .wrongMethod => .done (noEndpoint r.method 405 "Method Not Allowed")
  | .unknown => .done (noEndpoint r.method 404 "Not Found")

end Http

end HomeAutomation
