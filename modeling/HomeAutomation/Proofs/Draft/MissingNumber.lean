import HomeAutomation.Capability.Spec
import HomeAutomation.Proofs.Draft.Runnable

/-!
# Actions without a number

Four commands do something else for another number (`takesNumber_iff_mem`). If an action comes
without one, a temperature leaves it out of the data, and so does a brightness unless the entity is
a light. A position, a volume and the brightness of a light make up a zero, so the hub cannot tell
the action from one that asks for a zero (`service?_of_isZero`).
-/

namespace HomeAutomation

/-- What the command does depends on the number that goes with it. -/
def TakesNumber (command : String) : Prop :=
  ∃ domain value other, serviceFor? command domain value ≠ serviceFor? command domain other

def numberedCommands : List String :=
  ["light/set_brightness", "blind/set_position", "media/volume_set", "boiler/set_temperature"]

/-- The command has something to do in this domain that needs no number. -/
def DoesWithoutNumber (command domain : String) : Prop :=
  command = "boiler/set_temperature" ∨ (command = "light/set_brightness" ∧ domain ≠ "light")

instance (command domain : String) : Decidable (DoesWithoutNumber command domain) :=
  inferInstanceAs (Decidable (_ ∨ _ ∧ _))

namespace DeviceCommand

/-- A command with no number in its data does the same for every number. -/
theorem service?_of_not_mem {command : DeviceCommand}
    (h : Vocabulary.text command ∉ numberedCommands) (domain : String)
    (value other : Option Number) :
    command.service? domain value = command.service? domain other := by
  cases command <;> first | rfl | exact absurd (by decide) h

theorem numberOrZero_of_isZero {zero : Number} (h : zero.isZero = true) :
    numberOrZero (some zero) = numberOrZero none :=
  if_pos h

theorem service?_of_isZero {command : DeviceCommand} (domain : String) {zero : Number}
    (hzero : zero.isZero = true) (hne : command ≠ .boilerTemperature) :
    command.service? domain (some zero) = command.service? domain none := by
  cases command
  case boilerTemperature => exact absurd rfl hne
  case lightBrightness | blindPosition | mediaVolume =>
    simp only [service?, percentage, share, numberOrZero_of_isZero hzero]
  all_goals rfl

@[simp] theorem percentage_none : percentage none = .int 0 := by
  decide

@[simp] theorem share_none : share none = .int 0 := by
  decide +kernel

/-- Without a number, the data is left out where the command can do without, and is a zero
otherwise. -/
theorem service?_none {command : DeviceCommand} (h : Vocabulary.text command ∈ numberedCommands)
    (domain : String) :
    ∃ service, command.service? domain none = some service ∧
      (service.data = none ↔ DoesWithoutNumber (Vocabulary.text command) domain) ∧
      ∀ data, service.data = some data → data.2 = .int 0 := by
  cases command
  case lightBrightness =>
    by_cases hlight : domain = "light"
    · simp [service?, Vocabulary.text, DoesWithoutNumber, hlight]
    · simp [service?, Vocabulary.text, DoesWithoutNumber, hlight]
  case blindPosition | mediaVolume | boilerTemperature =>
    simp [service?, Vocabulary.text, DoesWithoutNumber]
  all_goals exact absurd h (by decide)

end DeviceCommand

theorem exists_text_eq_of_mem {command : String} (h : command ∈ numberedCommands) :
    ∃ known : DeviceCommand, Vocabulary.text known = command := by
  simp only [numberedCommands, List.mem_cons, List.not_mem_nil, or_false] at h
  rcases h with rfl | rfl | rfl | rfl
  · exact ⟨.lightBrightness, rfl⟩
  · exact ⟨.blindPosition, rfl⟩
  · exact ⟨.mediaVolume, rfl⟩
  · exact ⟨.boilerTemperature, rfl⟩

theorem takesNumber_iff_mem {command : String} :
    TakesNumber command ↔ command ∈ numberedCommands := by
  constructor
  · rintro ⟨domain, value, other, hne⟩
    refine Decidable.byContradiction fun hmem => hne ?_
    rw [serviceFor?_eq_bind, serviceFor?_eq_bind]
    cases hknown : (Vocabulary.ofText? command : Option DeviceCommand) with
    | none => rfl
    | some known =>
        rw [← Vocabulary.ofText?_eq_some_iff.mp hknown] at hmem
        exact known.service?_of_not_mem hmem domain value other
  · intro hmem
    -- The brightness depends on it for a light only, so that domain is taken for all four.
    refine ⟨"light", none, some (.int 50), ?_⟩
    revert command
    decide +kernel

theorem NativeAction.exists_fields (native : NativeAction) :
    ∃ fields : Json.Fields, native.toJson = .obj fields ∧
      fields.get? "data" = native.service.data.map dataToJson := by
  obtain ⟨⟨name, data⟩, entity⟩ := native
  exact ⟨_, rfl, by cases data <;> rfl⟩

namespace Action

theorem compile_of_text {action : Action} {known : DeviceCommand} {service : Service}
    (htext : Vocabulary.text known = action.command)
    (hservice : known.service? action.domain (action.value.map .double) = some service) :
    action.compile = .ok ⟨service, action.entity⟩ :=
  compile_eq_ok_iff.mpr ⟨service, serviceFor?_eq_some_iff.mpr ⟨known, htext, hservice⟩, rfl⟩

/-- An action whose command takes a number, but that comes without one, has no data exactly where
the command can do without. Elsewhere its data is a zero, and it is compiled like an action that
asks for a zero. -/
theorem compile_without_number {action : Action} (hvalue : action.value = none)
    (htakes : TakesNumber action.command) :
    ∃ (native : NativeAction) (fields : Json.Fields),
      action.compile = .ok native ∧ native.toJson = .obj fields ∧
        (fields.has "data" = false ↔ DoesWithoutNumber action.command action.domain) ∧
        (fields.has "data" = true →
          (∃ name, fields.get? "data" = some (.obj [(name, .int 0)])) ∧
            ∀ zero : Float, (Number.double zero).isZero = true →
              { action with value := some zero }.compile = .ok native) := by
  have hmem := takesNumber_iff_mem.mp htakes
  obtain ⟨known, htext⟩ := exists_text_eq_of_mem hmem
  rw [← htext] at hmem
  obtain ⟨service, hservice, hnone, hzero⟩ := known.service?_none hmem action.domain
  rw [htext] at hnone
  obtain ⟨fields, hfields, hget⟩ := NativeAction.exists_fields ⟨service, action.entity⟩
  refine ⟨⟨service, action.entity⟩, fields, ?_, hfields, ?_, ?_⟩
  · exact compile_of_text htext (by rw [hvalue]; exact hservice)
  · rw [Json.Fields.has, hget, ← hnone]
    cases service.data <;> simp
  · intro hhas
    obtain ⟨data, hdata⟩ : ∃ data, service.data = some data := by
      rw [Json.Fields.has, hget, Option.isSome_map] at hhas
      exact Option.isSome_iff_exists.mp hhas
    refine ⟨⟨data.1, ?_⟩, ?_⟩
    · rw [hget, hdata, Option.map_some, NativeAction.dataToJson, hzero data hdata]
      rfl
    · intro zero hisZero
      -- There is data, so the command is one that treats a zero like no number.
      have hne : known ≠ .boilerTemperature := by
        rintro rfl
        rw [hnone.mpr (.inl htext.symm)] at hdata
        cases hdata
      refine compile_of_text htext ?_
      rw [Option.map_some, known.service?_of_isZero _ hisZero hne]
      exact hservice

/-- A slider of which no position is chosen closes the blind. -/
theorem compile_without_number_slider :
    let slider : ActionSpec :=
      .slider ⟨"position", "Position", [.automation]⟩ "blind/set_position" 0 100 none false
    let closing : NativeAction :=
      ⟨⟨"cover.set_cover_position", some ("position", .int 0)⟩, "cover.blind"⟩
    (slider.toAction "cover.blind" none).compile = .ok closing ∧
      (slider.toAction "cover.blind" (some 0)).compile = .ok closing := by
  intro slider closing
  have htakes : TakesNumber "blind/set_position" := takesNumber_iff_mem.mpr (by decide)
  obtain ⟨native, fields, hok, hfields, hiff, hzero⟩ :=
    compile_without_number (rfl : (slider.toAction "cover.blind" none).value = none) htakes
  have hcloses : (slider.toAction "cover.blind" none).compile = .ok closing := rfl
  have hnative : native = closing := Except.ok.inj (hok.symm.trans hcloses)
  have hhas : fields.has "data" = true := by
    rw [← Bool.not_eq_false, hiff]
    decide
  refine ⟨hcloses, ?_⟩
  rw [← hnative]
  exact (hzero hhas).2 0 (by decide +kernel)

theorem exists_data_without_number :
    ¬ ∀ (action : Action) (native : NativeAction) (fields : Json.Fields),
      action.value = none → TakesNumber action.command → action.compile = .ok native →
        native.toJson = .obj fields → fields.has "data" = false := by
  intro h
  have htakes : TakesNumber "blind/set_position" := takesNumber_iff_mem.mpr (by decide)
  have hmissing := h ⟨"cover.blind", "blind/set_position", none⟩
    ⟨⟨"cover.set_cover_position", some ("position", .int 0)⟩, "cover.blind"⟩ _ rfl htakes rfl rfl
  exact absurd hmissing (by decide)

end Action

end HomeAutomation
