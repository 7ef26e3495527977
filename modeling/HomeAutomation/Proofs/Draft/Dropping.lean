import HomeAutomation.Proofs.Draft.Shape

/-!
# Compiled or reported

Every action of a draft ends up in exactly one of two lists, the native actions of the configuration
or the lines of the log, and both are in the order of the draft (`CompiledOrReported`). Which one it
is depends on the command alone: the commands with a service are `servedCommands`, whatever the
entity and the number. All of them are device commands, and the line about a dropped action says
whether its command is one.
-/

namespace HomeAutomation

open Text

/-- The texts of the commands that have a service. -/
def servedCommands : List String :=
  ["light/turn_on", "light/turn_off", "light/set_brightness", "blind/open", "blind/close",
    "blind/set_position", "tv/turn_on", "speaker/turn_on", "tv/turn_off", "speaker/turn_off",
    "media/volume_set", "media/play_pause", "boiler/set_temperature"]

theorem DeviceCommand.isSome_service?_iff (command : DeviceCommand) (domain : String)
    (value : Option Number) :
    (command.service? domain value).isSome = true ↔ Vocabulary.text command ∈ servedCommands := by
  cases command <;> simp [service?, Vocabulary.text, servedCommands]

/-- No device command starts with a `u`. -/
theorem DeviceCommand.not_opens_unknown (command : DeviceCommand) (rest : List Char) :
    ¬ "unknown ".toList <+: (Vocabulary.text command).toList ++ rest := by
  rintro ⟨tail, h⟩
  have hhead : (Vocabulary.text command).toList.head? ≠ some 'u' := by
    cases command <;> decide
  cases hchars : (Vocabulary.text command).toList with
  | nil => cases command <;> cases hchars
  | cons first chars =>
      rw [hchars] at h hhead
      exact hhead (congrArg List.head? h).symm

theorem isDeviceCommand_of_mem {command : String} (h : command ∈ servedCommands) :
    isDeviceCommand (.str command) = true := by
  revert command
  decide

theorem isMapped_iff_mem {command : String} : IsMapped command ↔ command ∈ servedCommands := by
  rw [isMapped_iff "" none]
  constructor
  · rintro ⟨service, h⟩
    obtain ⟨known, rfl, hservice⟩ := serviceFor?_eq_some_iff.mp h
    rw [← known.isSome_service?_iff "" none, hservice]
    rfl
  · intro hmem
    obtain ⟨known, hknown⟩ := Option.isSome_iff_exists.mp (isDeviceCommand_of_mem hmem)
    rw [← Vocabulary.ofText?_eq_some_iff.mp hknown, ← known.isSome_service?_iff "" none] at hmem
    obtain ⟨service, hservice⟩ := Option.isSome_iff_exists.mp hmem
    exact ⟨service, serviceFor?_eq_some_iff.mpr
      ⟨known, Vocabulary.ofText?_eq_some_iff.mp hknown, hservice⟩⟩

/-- A command without a service has none for any text for a domain and any number. -/
theorem serviceRaw_eq_ok_none_iff {command domain : String} {value : Option Number} :
    serviceRaw command domain value = .ok none ↔ command ∉ servedCommands := by
  have hnone : serviceFor? command (lower domain) value = none ↔ command ∉ servedCommands := by
    rw [← isMapped_iff_mem, isMapped_iff (lower domain) value, ← Option.ne_none_iff_exists',
      Classical.not_not]
  rw [serviceRaw, ← hnone]
  cases hrefuse : refuseTooLarge command value with
  | ok _ => simp [Except.map]
  | error fault =>
      -- What is refused is a volume, which has a service.
      suffices serviceFor? command (lower domain) value ≠ none by simp [Except.map, this]
      have hvolume : command = "media/volume_set" := by
        by_contra hne
        simp [refuseTooLarge, hne] at hrefuse
      rw [hvolume]
      exact Option.some_ne_none _

theorem mem_servedCommands_of_serviceRaw {command domain : String} {value : Option Number}
    {service : Service} (h : serviceRaw command domain value = .ok (some service)) :
    command ∈ servedCommands := by
  by_contra hmem
  rw [serviceRaw_eq_ok_none_iff.mpr hmem] at h
  cases h

namespace Action

def unservedLine (action : Action) : String :=
  "dropping " ++ action.command ++ " on " ++ action.entity ++ ": no hub service"

def unknownLine (action : Action) : String :=
  "dropping unknown command " ++ quoted action.command ++ " on " ++ action.entity

/-- The native action carries out the command of the action by its service. -/
def IsCompiledTo (action : Action) (native : Json) : Prop :=
  action.command ∈ servedCommands ∧ ∃ service,
    serviceFor? action.command action.domain (action.value.map .double) = some service ∧
      native = (NativeAction.mk service action.entity).toJson

/-- The line says that the action is dropped, and why. -/
def IsReportedBy (action : Action) (line : String) : Prop :=
  action.command ∉ servedCommands ∧
    line = if isDeviceCommand (.str action.command) then action.unservedLine else action.unknownLine

/-- What the log says about an action. -/
def report? (action : Action) : Option String :=
  match action.compile with
  | .ok _ => none
  | .error why => some why.message

theorem isCompiledTo_of_compile {action : Action} {native : NativeAction}
    (h : action.compile = .ok native) : action.IsCompiledTo native.toJson := by
  have hmapped : IsMapped action.command := exists_compile_eq_ok_iff.mp ⟨native, h⟩
  obtain ⟨service, hservice, rfl⟩ := compile_eq_ok_iff.mp h
  exact ⟨isMapped_iff_mem.mp hmapped, service, hservice, rfl⟩

theorem isReportedBy_of_compile {action : Action} {why : DroppedAction}
    (h : action.compile = .error why) : action.IsReportedBy why.message := by
  constructor
  · rw [← isMapped_iff_mem, ← exists_compile_eq_ok_iff]
    rintro ⟨native, hok⟩
    rw [h] at hok
    cases hok
  · unfold compile compileCommand at h
    cases hservice : serviceFor? action.command (entityDomain action.entity)
        (action.value.map .double) with
    | some service =>
        rw [hservice] at h
        cases h
    | none =>
        rw [hservice] at h
        cases hdevice : isDeviceCommand (.str action.command) with
        | true =>
            simp only [hdevice, if_true] at h
            cases h
            rfl
        | false =>
            simp only [hdevice, Bool.false_eq_true, if_false] at h
            cases h
            rfl

theorem opens_unknown (command entity : String) :
    ("dropping ".toList ++ "unknown ".toList) <+:
      ("dropping unknown command " ++ command ++ " on " ++ entity).toList := by
  have hopening : "dropping unknown command " = "dropping " ++ "unknown " ++ "command " := by
    decide
  rw [hopening]
  simp only [String.toList_append, List.append_assoc, List.prefix_append_right_inj]
  exact List.prefix_append ..

theorem IsCompiledTo.not_isReportedBy {action : Action} {native : Json} {line : String}
    (h : action.IsCompiledTo native) : ¬ action.IsReportedBy line :=
  fun hreported => hreported.1 h.1

theorem exists_compile_iff_mem {action : Action} :
    (∃ native, action.compile = .ok native) ↔ action.command ∈ servedCommands := by
  rw [exists_compile_eq_ok_iff, isMapped_iff_mem]

/-- Only the line about an unknown command starts like one. -/
theorem IsReportedBy.opens_unknown_iff {action : Action} {line : String}
    (h : action.IsReportedBy line) :
    ("dropping ".toList ++ "unknown ".toList) <+: line.toList ↔
      isDeviceCommand (.str action.command) = false := by
  obtain ⟨-, rfl⟩ := h
  cases hdevice : isDeviceCommand (.str action.command) with
  | false =>
      have hline : ("dropping ".toList ++ "unknown ".toList) <+: action.unknownLine.toList :=
        opens_unknown ..
      simpa only [Bool.false_eq_true, if_false, iff_true] using hline
  | true =>
      obtain ⟨known, hknown⟩ := Option.isSome_iff_exists.mp hdevice
      have htext : Vocabulary.text known = action.command :=
        Vocabulary.ofText?_eq_some_iff.mp hknown
      have hne : ¬ "unknown ".toList <+: (Vocabulary.text known).toList ++
          (" on ".toList ++ (action.entity.toList ++ ": no hub service".toList)) :=
        known.not_opens_unknown _
      simpa only [if_true, unservedLine, ← htext, String.toList_append, List.append_assoc,
        List.prefix_append_right_inj, Bool.true_eq_false, iff_false] using hne

theorem IsReportedBy.unknownLine_iff {action : Action} {line : String}
    (h : action.IsReportedBy line) :
    (∃ other : Action, line = other.unknownLine) ↔
      isDeviceCommand (.str action.command) = false := by
  constructor
  · rintro ⟨other, rfl⟩
    exact h.opens_unknown_iff.mp (opens_unknown ..)
  · intro hunknown
    obtain ⟨-, rfl⟩ := h
    exact ⟨action, by rw [hunknown, if_neg Bool.false_ne_true]⟩

end Action

/-- Every action is either carried out or reported, and both lists are in the order of the
actions. -/
inductive CompiledOrReported : List Action → List Json → List String → Prop
  | nil : CompiledOrReported [] [] []
  | compiled {action actions native natives log} :
      action.IsCompiledTo native → CompiledOrReported actions natives log →
        CompiledOrReported (action :: actions) (native :: natives) log
  | reported {action actions natives line log} :
      action.IsReportedBy line → CompiledOrReported actions natives log →
        CompiledOrReported (action :: actions) natives (line :: log)

theorem CompiledOrReported.length_add_length {actions : List Action} {natives : List Json}
    {log : List String} (h : CompiledOrReported actions natives log) :
    natives.length + log.length = actions.length := by
  induction h with
  | nil => rfl
  | compiled _ _ ih =>
      rw [List.length_cons, List.length_cons, ← ih]
      omega
  | reported _ _ ih =>
      rw [List.length_cons, List.length_cons, ← ih]
      omega

theorem compiledOrReported_filterMap (actions : List Action) :
    CompiledOrReported actions
      (actions.filterMap fun action => action.compile.toOption.map NativeAction.toJson)
      (actions.filterMap Action.report?) := by
  induction actions with
  | nil => exact .nil
  | cons action actions ih =>
      -- The first action goes to one of the lists, in front of what the others give.
      cases h : action.compile with
      | ok native =>
          rw [List.filterMap_cons_some (by rw [h]; rfl),
            List.filterMap_cons_none (by rw [Action.report?, h])]
          exact .compiled (Action.isCompiledTo_of_compile h) ih
      | error why =>
          rw [List.filterMap_cons_none (by rw [h]; rfl),
            List.filterMap_cons_some (by rw [Action.report?, h])]
          exact .reported (Action.isReportedBy_of_compile h) ih

/-- Nothing is lost between the actions of a draft, its native actions and the log. -/
structure AccountsFor (actions : List Action) (natives : List Json) (log : List String) : Prop where
  ordered : CompiledOrReported actions natives log
  length_eq : natives.length + log.length = actions.length
  /-- No action is in both lists. -/
  exclusive : ∀ action ∈ actions, ∀ native line,
    ¬ (action.IsCompiledTo native ∧ action.IsReportedBy line)
  /-- A line calls a command unknown exactly if it is no device command. -/
  unknown_iff : ∀ action ∈ actions, ∀ line, action.IsReportedBy line →
    ((∃ other : Action, line = other.unknownLine) ↔
      isDeviceCommand (.str action.command) = false)

theorem CompiledOrReported.accountsFor {actions : List Action} {natives : List Json}
    {log : List String} (h : CompiledOrReported actions natives log) :
    AccountsFor actions natives log where
  ordered := h
  length_eq := h.length_add_length
  exclusive _ _ _ _ hboth := hboth.1.not_isReportedBy hboth.2
  unknown_iff _ _ _ hreported := hreported.unknownLine_iff

namespace Draft

/-- What the log says when a draft is compiled. -/
def log (draft : Draft) : List String :=
  draft.dropped.map DroppedAction.message

theorem log_eq_filterMap (draft : Draft) : draft.log = draft.actions.filterMap Action.report? := by
  rw [log, dropped, List.map_filterMap]
  congr 1
  funext action
  unfold Action.report?
  cases action.compile <;> rfl

theorem compiledOrReported (draft : Draft) :
    CompiledOrReported draft.actions (draft.compile.toFields.listAt "action") draft.log := by
  rw [listAt_action, log_eq_filterMap]
  exact compiledOrReported_filterMap draft.actions

/-- Every action is compiled or reported, in order, and its command alone decides which. -/
theorem actions_accountedFor (draft : Draft) :
    AccountsFor draft.actions (draft.compile.toFields.listAt "action") draft.log ∧
      (∀ action other : Action, action.command = other.command →
        ((∃ native, action.compile = .ok native) ↔ ∃ native, other.compile = .ok native)) ∧
      (∀ command domain value,
        serviceRaw command domain value = .ok none ↔ command ∉ servedCommands) ∧
      ∀ command domain value service, serviceRaw command domain value = .ok (some service) →
        isDeviceCommand (.str command) = true := by
  refine ⟨(compiledOrReported draft).accountsFor, ?_, ?_, ?_⟩
  · intro action other hcommand
    rw [Action.exists_compile_iff_mem, Action.exists_compile_iff_mem, hcommand]
  · intro command domain value
    exact serviceRaw_eq_ok_none_iff
  · intro command domain value service h
    exact isDeviceCommand_of_mem (mem_servedCommands_of_serviceRaw h)

/-- A light goes on, a player skips what it plays, and a lamp is told what no lamp can do. -/
def movieNight : Draft :=
  { eveningLights with
    actions := [⟨"media_player.tv", "media/next", none⟩, ⟨"light.hall", "light/turn_on", none⟩,
      ⟨"light.desk", "lamp/explode", none⟩] }

theorem actions_accountedFor_movieNight :
    let player : Action := ⟨"media_player.tv", "media/next", none⟩
    let hall : Action := ⟨"light.hall", "light/turn_on", none⟩
    let lamp : Action := ⟨"light.desk", "lamp/explode", none⟩
    let plug : Action := ⟨"switch.plug", "light/turn_on", some 1⟩
    let skipped := "dropping media/next on media_player.tv: no hub service"
    let unknown := "dropping unknown command 'lamp/explode' on light.desk"
    movieNight.log = [skipped, unknown] ∧
      (movieNight.compile.toFields.listAt "action").length + movieNight.log.length = 3 ∧
      (player.IsReportedBy skipped ∧ ¬ ∃ other : Action, skipped = other.unknownLine) ∧
      (lamp.IsReportedBy unknown ∧ ∃ other : Action, unknown = other.unknownLine) ∧
      (hall.command = plug.command ∧ ∃ native, plug.compile = .ok native) ∧
      isDeviceCommand (.str hall.command) = true := by
  intro player hall lamp plug skipped unknown
  obtain ⟨haccounts, hcommand, -, hserved⟩ := actions_accountedFor movieNight
  have hskipped : player.IsReportedBy skipped := ⟨by decide, by decide⟩
  have hunknown : lamp.IsReportedBy unknown := ⟨by decide, by decide⟩
  have hsame : hall.command = plug.command := rfl
  have hlog : movieNight.log = [skipped, unknown] := by decide
  have hnotUnknown := haccounts.unknown_iff player (by simp [movieNight, player]) skipped hskipped
  have hisUnknown := haccounts.unknown_iff lamp (by simp [movieNight, lamp]) unknown hunknown
  refine ⟨hlog, haccounts.length_eq, ⟨hskipped, ?_⟩, ⟨hunknown, hisUnknown.mpr rfl⟩,
    ⟨hsame, (hcommand hall plug hsame).mp ⟨_, rfl⟩⟩, hserved _ "light" none _ rfl⟩
  rw [hnotUnknown]
  decide

end Draft

end HomeAutomation
