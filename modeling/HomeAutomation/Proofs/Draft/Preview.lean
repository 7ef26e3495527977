import HomeAutomation.Proofs.Draft.Shape
import HomeAutomation.Proofs.Text.Word

/-!
# What the preview of a draft says

The preview describes the configuration that a draft is compiled to, and that never fails. It has
one line for each trigger and condition and for each action that is not dropped, and counts the
triggers and actions (`Draft.IsPreviewedBy`). A line about a trigger names what the trigger is
about, which is an entity or a time of day, a line about an action names the service and the entity,
and no line is the one for things of which nothing is known (`preview_covers`).
-/

namespace HomeAutomation

open Text

namespace Text

theorem contains_of_isPrefix {before part s : String} (h : (before ++ part).toList <+: s.toList) :
    contains part s = true := by
  rw [String.toList_append] at h
  exact occursIn_iff.mpr ((List.suffix_append ..).isInfix.trans h.isInfix)

theorem mem_of_isPrefix {before part s : String} {c : Char} (hc : c ∈ before.toList)
    (h : (before ++ part).toList <+: s.toList) : c ∈ s.toList := by
  refine h.subset ?_
  rw [String.toList_append]
  exact List.mem_append_left _ hc

theorem ne_of_mem {s t : String} (c : Char) (hs : c ∈ s.toList) (ht : c ∉ t.toList) : s ≠ t := by
  rintro rfl
  exact ht hs

theorem dropWhile_append_of_mem {p : Char → Bool} {s rest : List Char} {c : Char} (hmem : c ∈ s)
    (hc : p c = false) : (s ++ rest).dropWhile p = s.dropWhile p ++ rest := by
  have hne : ¬ (s.dropWhile p).isEmpty = true := by
    rw [List.isEmpty_iff, List.dropWhile_eq_nil_iff]
    intro hall
    rw [hall c hmem] at hc
    cases hc
  rw [List.dropWhile_append, if_neg hne]

/-- What has characters on both sides that are not trimmed is kept as a whole. -/
theorem infix_trim {p : Char → Bool} {before part after : List Char} {c d : Char}
    (hc : c ∈ before) (hpc : p c = false) (hd : d ∈ after) (hpd : p d = false) :
    part <:+: trim p (before ++ part ++ after) := by
  have hend : d ∈ after.reverse := List.mem_reverse.mpr hd
  rw [trim, List.append_assoc, dropWhile_append_of_mem hc hpc, ← List.append_assoc, trimEnd,
    List.reverse_append, dropWhile_append_of_mem hend hpd, List.reverse_append,
    List.reverse_reverse]
  exact ⟨_, _, rfl⟩

end Text

/-- If each result is there and is as it should be, so are all of them, in order. -/
theorem exists_mapM_forall₂ {α β γ ε : Type} {f : β → Except ε γ} {g : α → β} {R : α → γ → Prop}
    (h : ∀ x, ∃ z, f (g x) = .ok z ∧ R x z) (xs : List α) :
    ∃ zs, (xs.map g).mapM f = .ok zs ∧
      List.Forall₂ (fun x z => f (g x) = .ok z ∧ R x z) xs zs := by
  induction xs with
  | nil => exact ⟨[], rfl, .nil⟩
  | cons x rest ih =>
      obtain ⟨z, hz, hr⟩ := h x
      obtain ⟨zs, hzs, hrs⟩ := ih
      exact ⟨z :: zs, by rw [List.map_cons, List.mapM_cons, hz, hzs]; rfl, .cons ⟨hz, hr⟩ hrs⟩

namespace Describe

/-- The line names the subject, and it is not the line for things of which nothing is known. -/
structure Names (subject placeholder line : String) : Prop where
  contains_eq : contains subject line = true
  ne_placeholder : line ≠ placeholder

section Trigger

variable {fields : Json.Fields} {name : String}

theorem prefix_stateTrigger (h : fields.field "entity_id" = .str name) :
    ("state " ++ name).toList <+: (stateTrigger fields).toList := by
  have hname : (Json.str name).display = name := rfl
  unfold stateTrigger
  simp only [h, hname]
  split_ifs with hvoid
  · obtain rfl : name = "" := String.isEmpty_iff.mp hvoid
    exact ⟨"trigger".toList, by decide⟩
  all_goals simp [String.toList_append]

theorem prefix_timeTrigger {line : String} (h : fields.field "at" = .str name)
    (hline : timeTrigger fields = .ok line) :
    ("time at " ++ name).toList <+: line.toList ∨ name = "" ∧ line = "time trigger" := by
  unfold timeTrigger at hline
  dsimp only at hline
  rw [h] at hline
  split at hline
  case isTrue hvoid => exact .inr ⟨String.isEmpty_iff.mp hvoid, (Except.ok.inj hline).symm⟩
  case isFalse =>
    left
    split at hline
    case isTrue =>
      obtain rfl := Except.ok.inj hline
      exact List.prefix_rfl
    case isFalse =>
      cases hdays : joinDays (asList (fields.field "weekday")) with
      | error why =>
          rw [hdays] at hline
          cases hline
      | ok days =>
          rw [hdays] at hline
          obtain rfl := Except.ok.inj hline
          simp [String.toList_append, Json.display]

/-- Nothing of a name is lost at the ends of the line, which has more on both sides of it. -/
theorem names_numericTrigger (h : fields.field "entity_id" = .str name) :
    Names name "trigger" (numericTrigger fields) := by
  obtain ⟨rest, hrest⟩ : ∃ rest, numericTrigger fields =
      strip ("numeric " ++ name ++ (rest ++ "-" ++ textUnlessNull (fields.field "below"))) := by
    have hname : (Json.str name).display = name := rfl
    unfold numericTrigger
    simp only [h, hname]
    split_ifs
    · exact ⟨" " ++ textUnlessNull (fields.field "above"), by simp [String.append_assoc]⟩
    · exact ⟨" [" ++ (fields.field "attribute").display ++ "] " ++
        textUnlessNull (fields.field "above"), by simp [String.append_assoc]⟩
  have hchars : (numericTrigger fields).toList = trim isBlank ("numeric ".toList ++ name.toList ++
      (rest ++ "-" ++ textUnlessNull (fields.field "below")).toList) := by
    rw [hrest, strip, String.toList_ofList, String.toList_append, String.toList_append]
  have hn : 'n' ∈ "numeric ".toList := by decide
  have hminus : '-' ∈ (rest ++ "-" ++ textUnlessNull (fields.field "below")).toList := by
    simp [String.toList_append]
  constructor
  · rw [contains, hchars]
    exact occursIn_iff.mpr (infix_trim hn (by decide) hminus (by decide))
  · refine ne_of_mem 'n' ?_ (by decide)
    rw [hchars]
    exact mem_trim (by simp) (by decide)

end Trigger

theorem ne_condition_timeCondition {fields : Json.Fields} {line : String}
    (hline : timeCondition fields = .ok line) : line ≠ "condition" := by
  obtain ⟨rest, rfl⟩ : ∃ rest, line = strip ("time " ++ rest) := by
    unfold timeCondition at hline
    dsimp only at hline
    split at hline
    case isTrue => exact ⟨_, (Except.ok.inj hline).symm⟩
    case isFalse =>
      cases hdays : joinDays (asList (fields.field "weekday")) with
      | error why =>
          rw [hdays] at hline
          cases hline
      | ok days =>
          rw [hdays] at hline
          exact ⟨_, (Except.ok.inj hline).symm⟩
  refine ne_of_mem 'm' ?_ (by decide)
  rw [strip, String.toList_ofList, String.toList_append]
  exact mem_trim (List.mem_append_left _ (by decide)) (by decide)

section ServiceCall

variable {fields : Json.Fields} {service entity : String}

theorem exists_serviceCall_eq (hservice : fields.field "service" = .str service)
    (htarget : fields.field "target" = .obj [("entity_id", .str entity)]) :
    ∃ rest, serviceCall fields =
      "service " ++ service ++ (if entity.isEmpty then "" else " -> " ++ entity) ++ rest := by
  have hcall : serviceCall fields =
      let text := if entity.isEmpty then "service " ++ service
        else "service " ++ service ++ " -> " ++ entity
      let extra := serviceData (fields.field "data")
      if extra.isEmpty then text else text ++ " (" ++ extra ++ ")" := by
    rw [serviceCall, hservice, htarget]
    rfl
  rw [hcall]
  dsimp only
  generalize serviceData (fields.field "data") = extra
  cases entity.isEmpty <;> cases extra.isEmpty
  · exact ⟨" (" ++ extra ++ ")", by simp [String.append_assoc]⟩
  · exact ⟨"", by simp [String.append_assoc]⟩
  · exact ⟨" (" ++ extra ++ ")", by simp [String.append_assoc]⟩
  · exact ⟨"", by simp⟩

/-- A service call names the service and the entity. -/
theorem names_serviceCall (hservice : fields.field "service" = .str service)
    (htarget : fields.field "target" = .obj [("entity_id", .str entity)]) :
    contains service (serviceCall fields) = true ∧
      Names entity "action" (serviceCall fields) := by
  obtain ⟨rest, hrest⟩ := exists_serviceCall_eq hservice htarget
  have hprefix : ("service " ++ service).toList <+: (serviceCall fields).toList := by
    simp [hrest, String.toList_append]
  refine ⟨contains_of_isPrefix hprefix, ?_, ne_of_mem 's' (mem_of_isPrefix (by decide) hprefix)
    (by decide)⟩
  by_cases hempty : entity.isEmpty = true
  · obtain rfl := String.isEmpty_iff.mp hempty
    exact occursIn_iff.mpr (List.nil_infix)
  · have hnamed : ("service " ++ service ++ " -> " ++ entity).toList <+:
        (serviceCall fields).toList := by
      simp [hrest, hempty, String.toList_append]
    exact contains_of_isPrefix hnamed

end ServiceCall

end Describe

open Describe

/-- What a trigger is about: an entity, or a time of day. -/
def NativeTrigger.subject : NativeTrigger → String
  | state entity _ _ _ => entity
  | numericState entity _ _ _ => entity
  | time clock _ => clock

/-- What a trigger is about: an entity, or a time of day. -/
def Trigger.subject : Trigger → String
  | state entity _ _ => entity
  | delta entity _ _ => entity
  | position entity _ _ => entity
  | time clock _ => clock

theorem Trigger.subject_compile (trigger : Trigger) :
    trigger.compile.subject = trigger.subject := by
  cases trigger <;> rfl

theorem NativeTrigger.exists_line (t : NativeTrigger) :
    ∃ line, Describe.trigger t.toJson = .ok line ∧ Names t.subject "trigger" line := by
  cases t with
  | state entity attr target source =>
      have hprefix : ("state " ++ entity).toList <+: (stateTrigger
          ([("platform", .str "state"), ("entity_id", .str entity)] ++
            optionalField "attribute" attr ++ optionalField "to" target ++
            optionalField "from" source)).toList := prefix_stateTrigger rfl
      exact ⟨_, rfl, contains_of_isPrefix hprefix,
        ne_of_mem 's' (mem_of_isPrefix (by decide) hprefix) (by decide)⟩
  | numericState entity attr above below => exact ⟨_, rfl, names_numericTrigger rfl⟩
  | time clock days =>
      obtain ⟨line, hline⟩ := (time clock days).exists_description
      refine ⟨line, hline, ?_⟩
      change timeTrigger ([("platform", .str "time"), ("at", .str clock)] ++ daysField days) = _
        at hline
      rcases prefix_timeTrigger rfl hline with hprefix | ⟨hclock, rfl⟩
      · exact ⟨contains_of_isPrefix hprefix, ne_of_mem 'm' (mem_of_isPrefix (by decide) hprefix)
          (by decide)⟩
      · exact ⟨by rw [subject, hclock]; decide, by decide⟩

theorem Condition.exists_line (condition : Condition) :
    ∃ line, Describe.condition condition.toJson = .ok line ∧ line ≠ "condition" := by
  obtain ⟨line, hline⟩ := condition.exists_description
  refine ⟨line, hline, ?_⟩
  cases condition with
  | time days window =>
      change timeCondition (("condition", .str "time") :: daysField days ++ windowFields window) = _
        at hline
      exact ne_condition_timeCondition hline
  | template test =>
      obtain rfl := Except.ok.inj hline
      decide

/-- The lines say what a draft is compiled to. -/
structure Draft.IsPreviewedBy (draft : Draft) (lines : Description) : Prop where
  basic_eq : lines.basic = draft.title.val ++ ": " ++ toString draft.triggers.length ++
    " trigger(s), " ++ toString (draft.actions.countP fun action => action.compile.isOk) ++
    " action(s)"
  triggers_eq : ∃ parts, lines.triggers = "; ".intercalate parts ∧
    List.Forall₂ (fun trigger part => Describe.trigger trigger.compile.toJson = .ok part ∧
      Names trigger.subject "trigger" part) draft.triggers parts
  conditions_eq : ∃ parts, lines.conditions = "; ".intercalate parts ∧
    List.Forall₂ (fun condition part => Describe.condition condition.toJson = .ok part ∧
      part ≠ "condition") draft.compile.conditions parts
  actions_eq : ∃ parts, lines.actions = "; ".intercalate parts ∧
    List.Forall₂ (fun action part => Describe.action action.toJson = part ∧
      contains action.service.name part = true ∧ Names action.entity "action" part)
      draft.compile.actions parts

theorem NativeAutomation.title_described {config : NativeAutomation} (h : config.title ≠ "") :
    ((config.toFields.field "alias").orElse (.str "Automation")).display = config.title := by
  have hvoid : (Json.str config.title).isVoid = false := by simpa [Json.isVoid] using h
  rw [Json.Fields.field, get?_alias, Option.getD_some, Json.orElse, hvoid]
  rfl

theorem Draft.length_nativeActions (draft : Draft) :
    draft.nativeActions.length = draft.actions.countP fun action => action.compile.isOk := by
  rw [nativeActions, List.length_filterMap_eq_countP]
  congr 1
  funext action
  cases action.compile <;> rfl

theorem Trigger.exists_line (trigger : Trigger) :
    ∃ line, Describe.trigger trigger.compile.toJson = .ok line ∧
      Names trigger.subject "trigger" line :=
  trigger.subject_compile ▸ trigger.compile.exists_line

theorem NativeAction.names_line (action : NativeAction) :
    contains action.service.name (Describe.action action.toJson) = true ∧
      Names action.entity "action" (Describe.action action.toJson) := by
  obtain ⟨⟨service, data⟩, entity⟩ := action
  obtain ⟨fields, hcall, hservice, htarget⟩ : ∃ fields : Json.Fields,
      Describe.action (toJson ⟨⟨service, data⟩, entity⟩) = serviceCall fields ∧
        fields.field "service" = .str service ∧
        fields.field "target" = .obj [("entity_id", .str entity)] := ⟨_, rfl, rfl, rfl⟩
  rw [hcall]
  exact names_serviceCall hservice htarget

/-- The description of a configuration, when the lines about its parts are known. -/
theorem NativeAutomation.ofFields_eq {config : NativeAutomation} {triggers conditions : List String}
    (htitle : config.title ≠ "")
    (htriggers : (config.triggers.map NativeTrigger.toJson).mapM Describe.trigger = .ok triggers)
    (hconditions : (config.conditions.map Condition.toJson).mapM Describe.condition =
      .ok conditions) :
    Description.ofFields config.toFields = .ok
      { basic := config.title ++ ": " ++ toString triggers.length ++ " trigger(s), " ++
          toString config.actions.length ++ " action(s)"
        triggers := "; ".intercalate triggers
        conditions := "; ".intercalate conditions
        actions := "; ".intercalate
          (config.actions.map fun action => Describe.action action.toJson) } := by
  have hactions : (config.actions.map NativeAction.toJson).map Describe.action =
      config.actions.map fun action => Describe.action action.toJson := List.map_map
  rw [Description.ofFields, field_trigger, asList_arr, htriggers, asList_field_condition,
    hconditions, field_action, asList_arr, hactions, title_described htitle]
  dsimp only [bind, Except.bind, pure, Except.pure]
  rw [List.length_map]

theorem Draft.exists_lines (draft : Draft) :
    ∃ lines, Description.ofFields draft.compile.toFields = .ok lines ∧
      draft.IsPreviewedBy lines := by
  obtain ⟨triggers, htriggers, htriggerLines⟩ :=
    exists_mapM_forall₂ Trigger.exists_line draft.triggers
  obtain ⟨conditions, hconditions, hconditionLines⟩ :=
    exists_mapM_forall₂ Condition.exists_line draft.compile.conditions
  have hcompiled : draft.compile.triggers.map NativeTrigger.toJson =
      draft.triggers.map fun trigger => trigger.compile.toJson := List.map_map
  refine ⟨_, NativeAutomation.ofFields_eq draft.title.property (hcompiled ▸ htriggers) hconditions,
    ?_, ⟨triggers, rfl, htriggerLines⟩, ⟨conditions, rfl, hconditionLines⟩, ⟨_, rfl, ?_⟩⟩
  · rw [← htriggerLines.length_eq, ← draft.length_nativeActions]
    rfl
  · rw [List.forall₂_map_right_iff]
    exact List.forall₂_same.mpr fun action _ => ⟨rfl, action.names_line⟩

/-- The preview of a draft is made without fail, though not every configuration can be described. It
has a line for each part of what the draft is compiled to, and each line says what it is about. -/
theorem preview_covers :
    (∀ draft : Draft, ∃ lines, Description.ofFields draft.compile.toFields = .ok lines ∧
      draft.IsPreviewedBy lines) ∧
    ∃ config why, Description.ofFields config = .error why :=
  ⟨Draft.exists_lines, [("trigger", .obj [("platform", .int 1)])], .kindNotText, rfl⟩

example : Description.ofFields Draft.eveningLights.compile.toFields = .ok
    { basic := "Evening lights: 1 trigger(s), 1 action(s)"
      triggers := "time at 19:00"
      conditions := ""
      actions := "service light.turn_on -> light.living_room" } := by
  decide

end HomeAutomation
