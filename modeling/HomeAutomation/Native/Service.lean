import HomeAutomation.Number
import HomeAutomation.Validation.Vocabulary

/-!
# Device commands

The vocabulary of the commands that a device can be given, and the service of the hub that carries
a command out (`serviceFor?`). A command comes as a text, and any text may come: the service is
looked up without the vocabulary. Its name may depend on the domain of the entity, and its data on
the number that goes with the command. Where the hub wants a number from a range, the number is put
into the range.
-/

namespace HomeAutomation

inductive DeviceCommand where
  | lightOn
  | lightOff
  | lightToggle
  | lightBrightness
  | blindOpen
  | blindClose
  | blindPosition
  | mediaPlayPause
  | mediaNext
  | mediaPrevious
  | mediaVolumeUp
  | mediaVolumeDown
  | mediaVolume
  | tvOn
  | tvOff
  | tvToggle
  | speakerOn
  | speakerOff
  | speakerToggle
  | boilerUp
  | boilerDown
  | boilerTemperature
  deriving DecidableEq, Repr

instance : Vocabulary DeviceCommand where
  words := [.lightOn, .lightOff, .lightToggle, .lightBrightness, .blindOpen, .blindClose,
    .blindPosition, .mediaPlayPause, .mediaNext, .mediaPrevious, .mediaVolumeUp, .mediaVolumeDown,
    .mediaVolume, .tvOn, .tvOff, .tvToggle, .speakerOn, .speakerOff, .speakerToggle, .boilerUp,
    .boilerDown, .boilerTemperature]
  text
    | .lightOn => "light/turn_on"
    | .lightOff => "light/turn_off"
    | .lightToggle => "light/toggle"
    | .lightBrightness => "light/set_brightness"
    | .blindOpen => "blind/open"
    | .blindClose => "blind/close"
    | .blindPosition => "blind/set_position"
    | .mediaPlayPause => "media/play_pause"
    | .mediaNext => "media/next"
    | .mediaPrevious => "media/previous"
    | .mediaVolumeUp => "media/volume_up"
    | .mediaVolumeDown => "media/volume_down"
    | .mediaVolume => "media/volume_set"
    | .tvOn => "tv/turn_on"
    | .tvOff => "tv/turn_off"
    | .tvToggle => "tv/toggle_power"
    | .speakerOn => "speaker/turn_on"
    | .speakerOff => "speaker/turn_off"
    | .speakerToggle => "speaker/toggle_power"
    | .boilerUp => "boiler/temp_up"
    | .boilerDown => "boiler/temp_down"
    | .boilerTemperature => "boiler/set_temperature"

structure Service where
  name : String
  data : Option (String × Number)
  deriving DecidableEq

namespace DeviceCommand

/-- The number that goes with a command, a whole zero if there is none or it is a zero. -/
def numberOrZero : Option Number → Number
  | some value => if value.isZero then .int 0 else value
  | none => .int 0

def percentage (value : Option Number) : Number :=
  (numberOrZero value).clamp (.int 0) (.int 100)

def share (value : Option Number) : Number :=
  (Number.double (numberOrZero value).hundredth).clamp (.int 0) (.int 1)

def isTooLarge : Option Number → Bool
  | some (.int n) => !(Number.int n).hundredth.isFinite
  | _ => false

end DeviceCommand

/-- Commands that are a convenience of the dashboard and mean nothing in an automation. -/
def dashboardOnly : List String := ["boiler/temp_up", "boiler/temp_down"]

/-- The service that carries out a command on an entity of a domain. The command is any text and is
told by its text alone; the domain is in lower case. -/
def serviceFor? (command domain : String) (value : Option Number) : Option Service :=
  if dashboardOnly.contains command then none
  else if command = "light/turn_on" then
    some ⟨if domain = "light" then "light.turn_on" else "homeassistant.turn_on", none⟩
  else if command = "light/turn_off" then
    some ⟨if domain = "light" then "light.turn_off" else "homeassistant.turn_off", none⟩
  else if command = "light/set_brightness" then
    if domain = "light" then
      some ⟨"light.turn_on", some ("brightness_pct", DeviceCommand.percentage value)⟩
    else
      -- There is no brightness for other entities; switching them on comes closest.
      some ⟨"homeassistant.turn_on", none⟩
  else if command = "blind/open" then
    some ⟨"cover.set_cover_position", some ("position", .int 100)⟩
  else if command = "blind/close" then
    some ⟨"cover.set_cover_position", some ("position", .int 0)⟩
  else if command = "blind/set_position" then
    some ⟨"cover.set_cover_position", some ("position", DeviceCommand.percentage value)⟩
  else if command = "tv/turn_on" ∨ command = "speaker/turn_on" then
    some ⟨"media_player.turn_on", none⟩
  else if command = "tv/turn_off" ∨ command = "speaker/turn_off" then
    some ⟨"media_player.turn_off", none⟩
  else if command = "media/volume_set" then
    some ⟨"media_player.volume_set", some ("volume_level", DeviceCommand.share value)⟩
  else if command = "media/play_pause" then
    some ⟨"media_player.media_play_pause", none⟩
  else if command = "boiler/set_temperature" then
    some ⟨if domain = "climate" then "climate.set_temperature" else "homeassistant.turn_on",
      value.map fun v => ("temperature", v)⟩
  else none

end HomeAutomation
