import HomeAutomation.Native.Description

/-!
# Every configuration can be described

A description fails on kinds and week days that are not texts. In the configuration of an automation
they all are, so it is always described (`NativeAutomation.exists_description`).
-/

namespace HomeAutomation

open Json

theorem exists_mapM_eq_ok {α β ε : Type} {f : α → Except ε β} {xs : List α}
    (h : ∀ x ∈ xs, ∃ y, f x = .ok y) : ∃ ys, xs.mapM f = .ok ys := by
  induction xs with
  | nil => exact ⟨[], rfl⟩
  | cons x rest ih =>
      obtain ⟨hx, hrest⟩ := List.forall_mem_cons.mp h
      obtain ⟨y, hy⟩ := hx
      obtain ⟨ys, hys⟩ := ih hrest
      exact ⟨y :: ys, by rw [List.mapM_cons, hy, hys]; rfl⟩

theorem exists_bind_eq_ok {α β ε : Type} {x : Except ε α} {next : α → Except ε β}
    (hx : ∃ a, x = .ok a) (hnext : ∀ a, ∃ b, next a = .ok b) : ∃ b, x >>= next = .ok b := by
  obtain ⟨a, rfl⟩ := hx
  exact hnext a

namespace Describe

@[simp] theorem asList_arr (items : List Json) : asList (.arr items) = items := by
  cases items <;> rfl

theorem exists_joinDays_eq_ok (days : List Weekday) :
    ∃ s, joinDays (asList (Weekday.listToJson (some days))) = .ok s := by
  rw [Weekday.listToJson, ofTexts, asList_arr]
  refine exists_bind_eq_ok (exists_mapM_eq_ok ?_) fun texts => ⟨_, rfl⟩
  intro day hday
  obtain ⟨s, -, rfl⟩ := List.mem_map.mp hday
  exact ⟨s, rfl⟩

end Describe

theorem NativeTrigger.exists_description (t : NativeTrigger) :
    ∃ s, Describe.trigger t.toJson = .ok s := by
  cases t with
  | state entity attr target source => exact ⟨_, rfl⟩
  | numericState entity attr above below => exact ⟨_, rfl⟩
  | time clock days =>
      have hkind : Describe.trigger (time clock days).toJson =
          Describe.timeTrigger
            ([("platform", .str "time"), ("at", .str clock)] ++ daysField days) :=
        rfl
      rw [hkind, Describe.timeTrigger]
      split
      · exact ⟨_, rfl⟩
      · split
        · exact ⟨_, rfl⟩
        · refine exists_bind_eq_ok ?_ fun text => ⟨_, rfl⟩
          cases days with
          | none => contradiction
          | some days => exact Describe.exists_joinDays_eq_ok days

theorem Condition.exists_description (condition : Condition) :
    ∃ s, Describe.condition condition.toJson = .ok s := by
  cases condition with
  | time days window =>
      have hkind : Describe.condition (time days window).toJson =
          Describe.timeCondition
            (("condition", .str "time") :: daysField days ++ windowFields window) := rfl
      rw [hkind, Describe.timeCondition]
      split
      · exact ⟨_, rfl⟩
      · rename_i hsome
        refine exists_bind_eq_ok ?_ fun dayPart => ⟨_, rfl⟩
        cases days with
        | nil => cases window <;> exact absurd rfl hsome
        | cons day rest =>
            obtain ⟨text, htext⟩ := Describe.exists_joinDays_eq_ok (day :: rest)
            exact ⟨[text], congrArg (fun r => (fun text => [text]) <$> r) htext⟩
  | template test => exact ⟨_, rfl⟩

namespace NativeAutomation

variable (config : NativeAutomation)

theorem field_trigger :
    config.toFields.field "trigger" = .arr (config.triggers.map NativeTrigger.toJson) := by
  obtain ⟨id, _⟩ := config
  cases id <;> rfl

theorem field_action :
    config.toFields.field "action" = .arr (config.actions.map NativeAction.toJson) := by
  obtain ⟨id, _⟩ := config
  cases id <;> rfl

/-- A configuration names its conditions only when there are some. -/
theorem field_condition :
    config.toFields.field "condition" =
      if config.conditions = [] then .null else .arr (config.conditions.map Condition.toJson) := by
  obtain ⟨id, _, _, _, _, _, conditions⟩ := config
  cases id <;> cases conditions <;> rfl

theorem asList_field_condition :
    Describe.asList (config.toFields.field "condition") =
      config.conditions.map Condition.toJson := by
  rw [field_condition]
  split
  · rename_i hnone
    rw [hnone]
    rfl
  · exact Describe.asList_arr _

/-- A configuration is described. -/
theorem exists_description : ∃ d, Description.ofFields config.toFields = .ok d := by
  refine exists_bind_eq_ok (exists_mapM_eq_ok ?_) fun triggers =>
    exists_bind_eq_ok (exists_mapM_eq_ok ?_) fun conditions => ⟨_, rfl⟩
  · intro v hv
    rw [field_trigger, Describe.asList_arr] at hv
    obtain ⟨t, -, rfl⟩ := List.mem_map.mp hv
    exact t.exists_description
  · intro v hv
    rw [asList_field_condition] at hv
    obtain ⟨condition, -, rfl⟩ := List.mem_map.mp hv
    exact condition.exists_description

end NativeAutomation

end HomeAutomation
