import HomeAutomation.Draft.Basic
import HomeAutomation.Proofs.Validation.Field

/-!
# Drafts on the wire

A draft is read back from what is written of it, whether the nulls are written (`read_toJson`) or
left out (`read_toWire`). Each kind of object has one lemma that says which values its fields need
(`readState_eq` and its siblings); both ways of writing give the fields those values.
-/

namespace HomeAutomation

open Json Json.Fields

theorem Action.optional_number_eq {fields : Json.Fields} {key : Key} {value : Option Float}
    (h : key.value fields = valueToJson value) :
    fields.optional key Reader.number = .valid value := by
  rw [optional_eq_valid_iff, h]
  cases value with
  | none => rfl
  | some x => rfl

theorem Weekday.optional_list_eq {fields : Json.Fields} {key : Key} {days : Option (List Weekday)}
    (h : key.value fields = listToJson days) :
    fields.optional key (Reader.list Reader.word) = .valid days := by
  rw [optional_eq_valid_iff, h]
  cases days with
  | none => rfl
  | some days => exact Reader.nullable_eq_valid nofun (Reader.list_word_ofTexts days)

@[simp] theorem Action.withoutNulls_valueToJson (value : Option Float) :
    (valueToJson value).withoutNulls = valueToJson value := by
  cases value with
  | none => simp [valueToJson, withoutNulls]
  | some x => simp [valueToJson, withoutNulls]

@[simp] theorem Weekday.withoutNulls_listToJson (days : Option (List Weekday)) :
    (listToJson days).withoutNulls = listToJson days := by
  cases days with
  | none => simp [listToJson, withoutNulls]
  | some days =>
      rw [listToJson, ofTexts, withoutNulls, withoutNullsItems_eq_map, List.map_map]
      rfl

namespace Trigger

theorem readState_eq {fields : Json.Fields} {entity : String} {target source : Option String}
    (hkind : fields.get? "kind" = some (.str stateKind))
    (hentity : Key.entity.value fields = .str entity)
    (htarget : (Key.single "to").value fields = .ofText? target)
    (hsource : Key.source.value fields = .ofText? source) :
    readState fields = .valid (.state entity target source) := by
  rw [readState, ofKind_eq hkind, required_text_eq hentity, optional_text_eq htarget,
    optional_text_eq hsource]
  rfl

theorem readDelta_eq {fields : Json.Fields} {entity attr : String} {direction : Direction}
    (hkind : fields.get? "kind" = some (.str deltaKind))
    (hentity : Key.entity.value fields = .str entity)
    (hattr : (Key.single "attribute").value fields = .str attr)
    (hdirection : (Key.single "direction").value fields = .str (Vocabulary.text direction)) :
    readDelta fields = .valid (.delta entity attr direction) := by
  rw [readDelta, ofKind_eq hkind, required_text_eq hentity,
    orDefault_eq_valid hattr nofun (Reader.text_str attr),
    required_eq_valid hdirection nofun (Reader.word_text direction)]
  rfl

theorem readPosition_eq {fields : Json.Fields} {entity attr : String} {value : Float}
    (hkind : fields.get? "kind" = some (.str positionKind))
    (hentity : Key.entity.value fields = .str entity)
    (hattr : (Key.single "attribute").value fields = .str attr)
    (hvalue : (Key.single "value").value fields = .double value) :
    readPosition fields = .valid (.position entity attr value) := by
  rw [readPosition, ofKind_eq hkind, required_text_eq hentity, required_text_eq hattr,
    required_eq_valid hvalue nofun (Reader.number_double value)]
  rfl

theorem readTime_eq {fields : Json.Fields} {clock : String} {days : Option (List Weekday)}
    (hkind : fields.get? "kind" = some (.str timeKind))
    (hclock : (Key.single "at").value fields = .str clock)
    (hdays : Key.days.value fields = Weekday.listToJson days) :
    readTime fields = .valid (.time clock days) := by
  rw [readTime, ofKind_eq hkind, required_text_eq hclock, Weekday.optional_list_eq hdays]
  rfl

theorem read_toJson (t : Trigger) : read t.toJson = .valid t := by
  cases t with
  | state entity target source =>
      exact Reader.tagged_eq_valid rfl rfl (readState_eq rfl rfl rfl rfl)
  | delta entity attr direction =>
      exact Reader.tagged_eq_valid rfl rfl (readDelta_eq rfl rfl rfl rfl)
  | position entity attr value =>
      exact Reader.tagged_eq_valid rfl rfl (readPosition_eq rfl rfl rfl rfl)
  | time clock days => exact Reader.tagged_eq_valid rfl rfl (readTime_eq rfl rfl rfl)

theorem read_withoutNulls (t : Trigger) : read t.toJson.withoutNulls = .valid t := by
  cases t with
  | state entity target source =>
      rw [toJson, withoutNulls]
      refine Reader.tagged_eq_valid rfl rfl (readState_eq rfl rfl ?_ ?_)
      · rw [value_withoutNullsFields (by simp) (.inl rfl)]
        exact withoutNulls_ofText? target
      · rw [value_withoutNullsFields (by simp) (.inr (by simp [Key.source]))]
        exact withoutNulls_ofText? source
  | delta entity attr direction =>
      exact Reader.tagged_eq_valid rfl rfl (readDelta_eq rfl rfl rfl rfl)
  | position entity attr value =>
      exact Reader.tagged_eq_valid rfl rfl (readPosition_eq rfl rfl rfl rfl)
  | time clock days =>
      rw [toJson, withoutNulls]
      refine Reader.tagged_eq_valid rfl rfl (readTime_eq rfl rfl ?_)
      rw [value_withoutNullsFields (by simp) (.inr (by simp [Key.days]))]
      exact Weekday.withoutNulls_listToJson days

end Trigger

namespace Action

theorem readFields_eq {fields : Json.Fields} {action : Action}
    (hkind : fields.get? "kind" = some (.str kind))
    (hentity : Key.entity.value fields = .str action.entity)
    (hcommand : (Key.single "command").value fields = .str action.command)
    (hvalue : (Key.single "value").value fields = valueToJson action.value) :
    readFields fields = .valid action := by
  rw [readFields, ofKind_eq hkind, required_text_eq hentity, required_text_eq hcommand,
    optional_number_eq hvalue]
  rfl

theorem read_toJson (stray : Flaw) (action : Action) :
    Reader.record stray readFields action.toJson = .valid action :=
  readFields_eq rfl rfl rfl rfl

theorem read_withoutNulls (stray : Flaw) (action : Action) :
    Reader.record stray readFields action.toJson.withoutNulls = .valid action := by
  rw [toJson, withoutNulls]
  refine readFields_eq rfl rfl rfl ?_
  rw [value_withoutNullsFields (by simp) (.inl rfl)]
  exact withoutNulls_valueToJson action.value

end Action

namespace Draft

theorem read_title_eq {fields : Json.Fields} {title : NonEmptyText}
    (h : (Key.single "alias").value fields = .str title.val) :
    fields.required (.single "alias") Reader.nonEmptyText = .valid title := by
  refine required_eq_valid h nofun ?_
  rw [Reader.nonEmptyText, dif_neg title.property]

theorem readFields_eq {stray : Flaw} {fields : Json.Fields} {draft : Draft}
    (triggers actions : List Json)
    (hid : (Key.single "id").value fields = .ofText? draft.id)
    (htitle : (Key.single "alias").value fields = .str draft.title.val)
    (hdescription : (Key.single "description").value fields = .ofText? draft.description)
    (hmode : (Key.single "mode").value fields = .ofText? (draft.mode.map Vocabulary.text))
    (htriggers : (Key.single "triggers").value fields = .arr triggers)
    (hactions : (Key.single "actions").value fields = .arr actions)
    (hdays : Key.days.value fields = Weekday.listToJson draft.days)
    (hclock : (Key.mk "triggerTime" "trigger_time").value fields = .ofText? draft.clock)
    (hreadTriggers : Reader.list Trigger.read (.arr triggers) = .valid draft.triggers)
    (hreadActions : Reader.list (Reader.record stray Action.readFields) (.arr actions) =
      .valid draft.actions) :
    readFields stray fields = .valid draft := by
  have hreadMode : fields.optional (.single "mode") Reader.word = .valid draft.mode := by
    rw [optional_eq_valid_iff, hmode]
    exact Reader.nullable_word_ofText? draft.mode
  rw [readFields, optional_text_eq hid, read_title_eq htitle, optional_text_eq hdescription,
    hreadMode, orDefault_eq_valid htriggers nofun hreadTriggers,
    orDefault_eq_valid hactions nofun hreadActions, Weekday.optional_list_eq hdays,
    optional_text_eq hclock]
  rfl

/-- With all fields written, a draft is read back. -/
theorem read_toJson (draft : Draft) : read draft.toJson = .valid draft :=
  readFields_eq _ _ rfl rfl rfl rfl rfl rfl rfl rfl
    (Reader.list_map fun t _ => t.read_toJson)
    (Reader.list_map fun action _ => action.read_toJson _)

/-- With the nulls left out, a draft is read back. -/
theorem read_toWire (draft : Draft) : read draft.toWire = .valid draft := by
  rw [toWire, toJson, withoutNulls]
  refine readFields_eq (withoutNullsItems (draft.triggers.map Trigger.toJson))
    (withoutNullsItems (draft.actions.map Action.toJson)) ?id ?title ?description ?mode ?triggers
    ?actions ?days ?clock ?readTriggers ?readActions
  case id =>
    rw [value_withoutNullsFields (by simp) (.inl rfl)]
    exact withoutNulls_ofText? draft.id
  case title =>
    rw [value_withoutNullsFields (by simp) (.inl rfl)]
    exact withoutNulls.eq_def _
  case description =>
    rw [value_withoutNullsFields (by simp) (.inl rfl)]
    exact withoutNulls_ofText? draft.description
  case mode =>
    rw [value_withoutNullsFields (by simp) (.inl rfl)]
    exact withoutNulls_ofText? (draft.mode.map Vocabulary.text)
  case triggers =>
    rw [value_withoutNullsFields (by simp) (.inl rfl)]
    exact withoutNulls.eq_def _
  case actions =>
    rw [value_withoutNullsFields (by simp) (.inl rfl)]
    exact withoutNulls.eq_def _
  case days =>
    rw [value_withoutNullsFields (by simp) (.inr (by simp [Key.days]))]
    exact Weekday.withoutNulls_listToJson draft.days
  case clock =>
    rw [value_withoutNullsFields (by simp) (.inr (by simp))]
    exact withoutNulls_ofText? draft.clock
  case readTriggers =>
    rw [withoutNullsItems_eq_map, List.map_map]
    exact Reader.list_map fun t _ => t.read_withoutNulls
  case readActions =>
    rw [withoutNullsItems_eq_map, List.map_map]
    exact Reader.list_map fun action _ => action.read_withoutNulls _

end Draft

end HomeAutomation
