import HomeAutomation.Draft.Compile

/-!
# Services of the device commands

The service of a command is looked up by its text. Here it stands by the command itself
(`DeviceCommand.service?`), and the two agree (`serviceFor?_text`). A text that is not the text of a
device command has no service (`serviceFor?_eq_bind`), so the lookup never leaves the vocabulary.
-/

namespace HomeAutomation

namespace DeviceCommand

/-- The service that carries out a device command on an entity of a domain. -/
def service? (domain : String) (value : Option Number) : DeviceCommand → Option Service
  | lightOn => some ⟨if domain = "light" then "light.turn_on" else "homeassistant.turn_on", none⟩
  | lightOff => some ⟨if domain = "light" then "light.turn_off" else "homeassistant.turn_off", none⟩
  | lightBrightness =>
    some (if domain = "light" then ⟨"light.turn_on", some ("brightness_pct", percentage value)⟩
      else ⟨"homeassistant.turn_on", none⟩)
  | blindOpen => some ⟨"cover.set_cover_position", some ("position", .int 100)⟩
  | blindClose => some ⟨"cover.set_cover_position", some ("position", .int 0)⟩
  | blindPosition => some ⟨"cover.set_cover_position", some ("position", percentage value)⟩
  | tvOn | speakerOn => some ⟨"media_player.turn_on", none⟩
  | tvOff | speakerOff => some ⟨"media_player.turn_off", none⟩
  | mediaVolume => some ⟨"media_player.volume_set", some ("volume_level", share value)⟩
  | mediaPlayPause => some ⟨"media_player.media_play_pause", none⟩
  | boilerTemperature =>
    some ⟨if domain = "climate" then "climate.set_temperature" else "homeassistant.turn_on",
      value.map fun v => ("temperature", v)⟩
  | _ => none

end DeviceCommand

theorem serviceFor?_text (command : DeviceCommand) (domain : String) (value : Option Number) :
    serviceFor? (Vocabulary.text command) domain value = command.service? domain value := by
  cases command with
  | lightBrightness =>
      -- The lookup asks for the domain first, the table when it has a service already.
      exact (apply_ite some (domain = "light") _ _).symm
  | _ => rfl

/-- A text with a service is the text of a device command. -/
theorem exists_text_eq_of_serviceFor? {command domain : String} {value : Option Number}
    {service : Service} (h : serviceFor? command domain value = some service) :
    ∃ known : DeviceCommand, Vocabulary.text known = command := by
  refine Classical.byContradiction fun hunknown => ?_
  have hne (text : String) (htext : (Vocabulary.ofText? text : Option DeviceCommand).isSome) :
      command ≠ text := by
    rintro rfl
    obtain ⟨known, hknown⟩ := Option.isSome_iff_exists.mp htext
    exact hunknown ⟨known, Vocabulary.ofText?_eq_some_iff.mp hknown⟩
  have hnone : serviceFor? command domain value = none := by
    unfold serviceFor?
    by_cases hdashboard : dashboardOnly.contains command = true
    · rw [if_pos hdashboard]
    -- Every other branch is for the text of one device command, or of two.
    · rw [if_neg hdashboard, if_neg (hne "light/turn_on" rfl), if_neg (hne "light/turn_off" rfl),
        if_neg (hne "light/set_brightness" rfl), if_neg (hne "blind/open" rfl),
        if_neg (hne "blind/close" rfl), if_neg (hne "blind/set_position" rfl),
        if_neg (not_or.mpr ⟨hne "tv/turn_on" rfl, hne "speaker/turn_on" rfl⟩),
        if_neg (not_or.mpr ⟨hne "tv/turn_off" rfl, hne "speaker/turn_off" rfl⟩),
        if_neg (hne "media/volume_set" rfl), if_neg (hne "media/play_pause" rfl),
        if_neg (hne "boiler/set_temperature" rfl)]
  rw [hnone] at h
  cases h

theorem serviceFor?_eq_bind (command domain : String) (value : Option Number) :
    serviceFor? command domain value =
      (Vocabulary.ofText? command).bind (DeviceCommand.service? domain value) := by
  cases hknown : (Vocabulary.ofText? command : Option DeviceCommand) with
  | some known =>
      rw [← Vocabulary.ofText?_eq_some_iff.mp hknown, serviceFor?_text]
      rfl
  | none =>
      cases hservice : serviceFor? command domain value with
      | none => rfl
      | some service =>
          obtain ⟨known, rfl⟩ := exists_text_eq_of_serviceFor? hservice
          rw [Vocabulary.ofText?_text] at hknown
          cases hknown

theorem serviceFor?_eq_some_iff {command domain : String} {value : Option Number}
    {service : Service} :
    serviceFor? command domain value = some service ↔
      ∃ known : DeviceCommand, Vocabulary.text known = command ∧
        known.service? domain value = some service := by
  simp only [serviceFor?_eq_bind, Option.bind_eq_some_iff, Vocabulary.ofText?_eq_some_iff]

end HomeAutomation
