import HomeAutomation.Capability.Basic
import HomeAutomation.Proofs.Draft.Wire

/-!
# Capabilities on the wire

The specs of the catalog are read back from what is written of them, one kind after the other
(`TriggerSpec.readState_eq` and its siblings), and so is a capability that lists them.
-/

namespace HomeAutomation

open Json.Fields

theorem SpecInfo.read_toFields (info : SpecInfo) (own : Json.Fields) :
    SpecInfo.read (info.toFields ++ own) = .valid info := by
  have hid : (Key.single "id").value (info.toFields ++ own) = .str info.id := rfl
  have hlabel : (Key.single "label").value (info.toFields ++ own) = .str info.label := rfl
  have hsurfaces : (Key.single "surfaces").value (info.toFields ++ own) =
      .ofTexts (info.surfaces.map Vocabulary.text) := rfl
  rw [SpecInfo.read, required_text_eq hid, required_text_eq hlabel,
    orDefault_eq_valid hsurfaces nofun (Reader.list_word_ofTexts info.surfaces)]
  rfl

namespace TriggerSpec

variable {fields : Json.Fields} {info : SpecInfo}

theorem readState_eq {target : SwitchState} (hinfo : SpecInfo.read fields = .valid info)
    (hkind : fields.get? "kind" = some (.str stateKind))
    (htarget : (Key.mk "entityState" "entity_state").value fields =
      .str (Vocabulary.text target)) :
    readState fields = .valid (.state info target) := by
  rw [readState, hinfo, ofKind_eq hkind,
    required_eq_valid htarget nofun (Reader.word_text target)]
  rfl

theorem readDelta_eq {attr : String} {direction : Direction}
    (hinfo : SpecInfo.read fields = .valid info)
    (hkind : fields.get? "kind" = some (.str deltaKind))
    (hattr : (Key.single "attribute").value fields = .str attr)
    (hdirection : (Key.single "direction").value fields = .str (Vocabulary.text direction)) :
    readDelta fields = .valid (.delta info attr direction) := by
  rw [readDelta, hinfo, ofKind_eq hkind, required_text_eq hattr,
    required_eq_valid hdirection nofun (Reader.word_text direction)]
  rfl

theorem readPosition_eq {value : Float} {attr : String} {others : List String}
    (hinfo : SpecInfo.read fields = .valid info)
    (hkind : fields.get? "kind" = some (.str positionKind))
    (hvalue : (Key.single "equals").value fields = .double value)
    (hattrs : (Key.single "attributes").value fields = .ofTexts (attr :: others)) :
    readPosition fields = .valid (.position info value attr others) := by
  have hread : Reader.nonEmptyList Reader.text (.ofTexts (attr :: others)) =
      .valid (attr, others) := Reader.nonEmptyList_map fun s _ => rfl
  rw [readPosition, hinfo, ofKind_eq hkind,
    required_eq_valid hvalue nofun (Reader.number_double value),
    required_eq_valid hattrs nofun hread]
  rfl

theorem readTime_eq {clock : String} {days : Option (List Weekday)}
    (hinfo : SpecInfo.read fields = .valid info)
    (hkind : fields.get? "kind" = some (.str timeKind))
    (hclock : (Key.single "at").value fields = .str clock)
    (hdays : Key.days.value fields = Weekday.listToJson days) :
    readTime fields = .valid (.time info clock days) := by
  rw [readTime, hinfo, ofKind_eq hkind, required_text_eq hclock, Weekday.optional_list_eq hdays]
  rfl

theorem read_toJson (spec : TriggerSpec) : read spec.toJson = .valid spec := by
  cases spec with
  | state info target =>
      exact Reader.tagged_eq_valid rfl rfl (readState_eq (info.read_toFields _) rfl rfl)
  | delta info attr direction =>
      exact Reader.tagged_eq_valid rfl rfl (readDelta_eq (info.read_toFields _) rfl rfl rfl)
  | position info value attr others =>
      exact Reader.tagged_eq_valid rfl rfl (readPosition_eq (info.read_toFields _) rfl rfl rfl)
  | time info clock days =>
      exact Reader.tagged_eq_valid rfl rfl (readTime_eq (info.read_toFields _) rfl rfl rfl)

end TriggerSpec

namespace ActionSpec

variable {fields : Json.Fields} {info : SpecInfo} {command : String} {primary : Bool}

theorem readPrimary_eq (h : (Key.single "primary").value fields = .bool primary) :
    readPrimary fields = .valid primary :=
  orDefault_eq_valid h nofun (Reader.truth_bool primary) false

theorem readButton_eq {value : Option Float} (hinfo : SpecInfo.read fields = .valid info)
    (hkind : fields.get? "kind" = some (.str buttonKind))
    (hcommand : (Key.single "command").value fields = .str command)
    (hvalue : (Key.single "value").value fields = Action.valueToJson value)
    (hprimary : (Key.single "primary").value fields = .bool primary) :
    readButton fields = .valid (.button info command value primary) := by
  rw [readButton, hinfo, ofKind_eq hkind, required_text_eq hcommand,
    Action.optional_number_eq hvalue, readPrimary_eq hprimary]
  rfl

theorem readFixed_eq {value : Float} (hinfo : SpecInfo.read fields = .valid info)
    (hkind : fields.get? "kind" = some (.str fixedKind))
    (hcommand : (Key.single "command").value fields = .str command)
    (hvalue : (Key.single "value").value fields = .double value)
    (hprimary : (Key.single "primary").value fields = .bool primary) :
    readFixed fields = .valid (.fixed info command value primary) := by
  rw [readFixed, hinfo, ofKind_eq hkind, required_text_eq hcommand,
    required_eq_valid hvalue nofun (Reader.number_double value), readPrimary_eq hprimary]
  rfl

theorem readSlider_eq {low high : Float} {step : Option Float}
    (hinfo : SpecInfo.read fields = .valid info)
    (hkind : fields.get? "kind" = some (.str sliderKind))
    (hcommand : (Key.single "command").value fields = .str command)
    (hlow : (Key.single "min").value fields = .double low)
    (hhigh : (Key.single "max").value fields = .double high)
    (hstep : (Key.single "step").value fields = Action.valueToJson step)
    (hprimary : (Key.single "primary").value fields = .bool primary) :
    readSlider fields = .valid (.slider info command low high step primary) := by
  rw [readSlider, hinfo, ofKind_eq hkind, required_text_eq hcommand,
    required_eq_valid hlow nofun (Reader.number_double low),
    required_eq_valid hhigh nofun (Reader.number_double high),
    Action.optional_number_eq hstep, readPrimary_eq hprimary]
  rfl

theorem readToggle_eq {commandOn commandOff : String}
    (hinfo : SpecInfo.read fields = .valid info)
    (hkind : fields.get? "kind" = some (.str toggleKind))
    (hon : (Key.mk "commandOn" "command_on").value fields = .str commandOn)
    (hoff : (Key.mk "commandOff" "command_off").value fields = .str commandOff)
    (hprimary : (Key.single "primary").value fields = .bool primary) :
    readToggle fields = .valid (.toggle info commandOn commandOff primary) := by
  rw [readToggle, hinfo, ofKind_eq hkind, required_text_eq hon, required_text_eq hoff,
    readPrimary_eq hprimary]
  rfl

theorem read_toJson (spec : ActionSpec) : read spec.toJson = .valid spec := by
  cases spec with
  | button info command value primary =>
      exact Reader.tagged_eq_valid rfl rfl (readButton_eq (info.read_toFields _) rfl rfl rfl rfl)
  | fixed info command value primary =>
      exact Reader.tagged_eq_valid rfl rfl (readFixed_eq (info.read_toFields _) rfl rfl rfl rfl)
  | slider info command low high step primary =>
      exact Reader.tagged_eq_valid rfl rfl
        (readSlider_eq (info.read_toFields _) rfl rfl rfl rfl rfl rfl)
  | toggle info commandOn commandOff primary =>
      exact Reader.tagged_eq_valid rfl rfl (readToggle_eq (info.read_toFields _) rfl rfl rfl rfl)

end ActionSpec

namespace Capability

theorem readFields_eq {fields : Json.Fields} {capability : Capability}
    (triggers actions : List Json)
    (htriggers : (Key.single "triggers").value fields = .arr triggers)
    (hactions : (Key.single "actions").value fields = .arr actions)
    (hexcluded : (Key.mk "excludeFromAutomations" "exclude_from_automations").value fields =
      .bool capability.excluded)
    (hreadTriggers : Reader.list TriggerSpec.read (.arr triggers) = .valid capability.triggers)
    (hreadActions : Reader.list ActionSpec.read (.arr actions) = .valid capability.actions) :
    readFields fields = .valid capability := by
  rw [readFields, orDefault_eq_valid htriggers nofun hreadTriggers,
    orDefault_eq_valid hactions nofun hreadActions,
    orDefault_eq_valid hexcluded nofun (Reader.truth_bool capability.excluded)]
  rfl

theorem read_toJson (capability : Capability) : read capability.toJson = .valid capability :=
  readFields_eq _ _ rfl rfl rfl
    (Reader.list_map fun spec _ => spec.read_toJson)
    (Reader.list_map fun spec _ => spec.read_toJson)

end Capability

end HomeAutomation
