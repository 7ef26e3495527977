import HomeAutomation.Proofs.Native.Command

/-!
# The data of a service

Some commands have data, and what it is for each of them stands in one table, `DataFor`. Two of
these commands ask for a position of their own and do not look at the number that comes along.
-/

namespace HomeAutomation.DeviceCommand

/-- The named number that goes to the hub with a command. -/
inductive DataFor (value : Option Number) : DeviceCommand → String → Number → Prop
  | brightness : DataFor value .lightBrightness "brightness_pct" (percentage value)
  | opened : DataFor value .blindOpen "position" (.int 100)
  | closed : DataFor value .blindClose "position" (.int 0)
  | position : DataFor value .blindPosition "position" (percentage value)
  | volume : DataFor value .mediaVolume "volume_level" (share value)
  | temperature {n : Number} (h : value = some n) :
    DataFor value .boilerTemperature "temperature" n

theorem dataFor_of_service? {command : DeviceCommand} {domain name : String}
    {value : Option Number} {service : Service} {n : Number}
    (h : command.service? domain value = some service) (hdata : service.data = some (name, n)) :
    DataFor value command name n := by
  cases command with
  | lightBrightness =>
      obtain rfl := Option.some.inj h
      by_cases hlight : domain = "light"
      · simp only [if_pos hlight, Option.some.injEq, Prod.mk.injEq] at hdata
        obtain ⟨rfl, rfl⟩ := hdata
        exact .brightness
      · simp [if_neg hlight] at hdata
  | boilerTemperature =>
      obtain rfl := Option.some.inj h
      simp only [Option.map_eq_some_iff, Prod.mk.injEq] at hdata
      obtain ⟨v, hv, rfl, rfl⟩ := hdata
      exact .temperature hv
  | mediaVolume =>
      obtain rfl := Option.some.inj h
      obtain ⟨rfl, rfl⟩ := Prod.mk.inj (Option.some.inj hdata)
      exact .volume
  | blindPosition =>
      obtain rfl := Option.some.inj h
      obtain ⟨rfl, rfl⟩ := Prod.mk.inj (Option.some.inj hdata)
      exact .position
  | blindOpen =>
      obtain rfl := Option.some.inj h
      obtain ⟨rfl, rfl⟩ := Prod.mk.inj (Option.some.inj hdata)
      exact .opened
  | blindClose =>
      obtain rfl := Option.some.inj h
      obtain ⟨rfl, rfl⟩ := Prod.mk.inj (Option.some.inj hdata)
      exact .closed
  | lightToggle | mediaNext | mediaPrevious | mediaVolumeUp | mediaVolumeDown | tvToggle
  | speakerToggle | boilerUp | boilerDown => cases h
  | lightOn | lightOff | tvOn | tvOff | speakerOn | speakerOff | mediaPlayPause =>
      obtain rfl := Option.some.inj h
      cases hdata

end HomeAutomation.DeviceCommand
