import HomeAutomation.Backend.Connection
import HomeAutomation.Text.Part

/-!
# Settings

The settings of the process come from its environment. People write values there with stray blanks
and quotes, and now and then paste a whole expression; `cleaned` takes away the former and refuses
the latter.
-/

namespace HomeAutomation

open Text

structure Settings where
  platformUrl : Option String
  platformTimeout : Float
  hubUrl : Option String
  hubCloudUrl : Option String
  hubToken : String
  hubTimeout : Float
  /-- How the hub is reached unless a request says otherwise. -/
  hubMode : String
  /-- The secret that requests have to show; none if empty. -/
  secret : String
  debug : Bool
  deriving DecidableEq

namespace Settings

def defaultTimeout : Float := 10.0

def defaultMode : String := "home"

def readFields (fields : Json.Fields) : Checked Settings :=
  Settings.mk <$> fields.optional (.single "platform_api_url") Reader.text
    <*> fields.orDefault (.single "platform_timeout") defaultTimeout Reader.number
    <*> fields.optional (.single "ha_url") Reader.text
    <*> fields.optional (.single "ha_cloud_url") Reader.text
    <*> fields.orDefault (.single "ha_token") "" Reader.text
    <*> fields.orDefault (.single "ha_timeout") defaultTimeout Reader.number
    <*> fields.orDefault (.single "ha_mode") defaultMode Reader.text
    <*> fields.orDefault (.single "agent_secret") "" Reader.text
    <*> fields.orDefault (.single "debug") false Reader.truth

def read : Reader Settings :=
  Reader.record .notRecord readFields

def toJson (settings : Settings) : Json :=
  .obj [("platform_api_url", .ofText? settings.platformUrl),
    ("platform_timeout", .double settings.platformTimeout),
    ("ha_url", .ofText? settings.hubUrl), ("ha_cloud_url", .ofText? settings.hubCloudUrl),
    ("ha_token", .str settings.hubToken), ("ha_timeout", .double settings.hubTimeout),
    ("ha_mode", .str settings.hubMode), ("agent_secret", .str settings.secret),
    ("debug", .bool settings.debug)]

def connection? (settings : Settings) : Option HubConnection :=
  if (nonEmpty? settings.hubUrl).isNone && (nonEmpty? settings.hubCloudUrl).isNone then none
  else some ⟨settings.hubUrl, settings.hubCloudUrl, settings.hubToken⟩

abbrev Environment := String → Option String

def pastedMarks : List (List Char) := ["os.getenv".toList, "os.environ".toList]

/-- Takes the blanks around a value away, then the double quotes and then the single quotes. -/
def unquoted (s : List Char) : List Char :=
  trim (· == '\'') (trim (· == '"') (trim isBlank s))

/-- The value of a variable as it was meant; none if it is empty or a pasted expression. -/
def cleaned (value : Option String) : Option String :=
  (nonEmpty? value).bind fun s =>
    let v := unquoted s.toList
    if pastedMarks.any (occursIn · v) then none else some (String.ofList v)

/-- The number of seconds in a variable, the usual number if it holds none. -/
def seconds (value : Option String) : Float :=
  match (nonEmpty? (cleaned value)).bind Decimal.readSetting? with
  | some d => d.toDouble
  | none => defaultTimeout

def load (env : Environment) : Settings :=
  { platformUrl := cleaned (env "PLATFORM_API_URL")
    platformTimeout := seconds (env "PLATFORM_REQUEST_TIMEOUT")
    hubUrl := cleaned (env "HA_URL")
    hubCloudUrl := cleaned (env "HA_CLOUD_URL")
    hubToken := (cleaned (env "HA_TOKEN")).getD ""
    hubTimeout := seconds (env "HA_REQUEST_TIMEOUT")
    hubMode := lower ((nonEmpty? (cleaned (env "HA_MODE"))).getD defaultMode)
    secret := (cleaned (env "AGENT_SECRET")).getD ""
    debug := env "DEBUG" == some "1" }

end Settings

end HomeAutomation
