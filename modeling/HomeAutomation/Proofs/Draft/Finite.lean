import HomeAutomation.Proofs.Double.Finite
import HomeAutomation.Proofs.Draft.Runnable
import HomeAutomation.Proofs.Native.Data

/-!
# Finite drafts have finite configurations

JSON has no place for infinite and undefined numbers. A draft without such numbers is compiled to a
configuration without them (`Draft.isFinite_compile`): a position is moved by a hundredth only,
which takes no double out of range, and a number that is put into a range ends up in it.
-/

namespace HomeAutomation

namespace Json

theorem isFiniteItems_iff {items : List Json} :
    isFiniteItems items = true ↔ ∀ v ∈ items, v.isFinite = true := by
  induction items with
  | nil => simp [isFiniteItems]
  | cons v rest ih => simp [isFiniteItems, ih]

theorem isFiniteFields_append (fields more : Fields) :
    isFiniteFields (fields ++ more) = (isFiniteFields fields && isFiniteFields more) := by
  induction fields with
  | nil => simp [isFiniteFields]
  | cons entry rest ih =>
      obtain ⟨name, v⟩ := entry
      rw [List.cons_append, isFiniteFields, isFiniteFields, ih, Bool.and_assoc]

@[simp] theorem isFinite_ofText? (s : Option String) : (ofText? s).isFinite = true := by
  cases s <;> simp [ofText?, isFinite]

@[simp] theorem isFinite_ofTexts (texts : List String) : (ofTexts texts).isFinite = true := by
  rw [ofTexts, isFinite, isFiniteItems_iff]
  intro v hv
  obtain ⟨s, -, rfl⟩ := List.mem_map.mp hv
  simp [isFinite]

end Json

namespace Number

/-- The number can be written in JSON. -/
def IsFinite (n : Number) : Prop :=
  (Json.ofNumber n).isFinite = true

theorem isFinite_int (n : Int) : (int n).IsFinite := by
  simp [IsFinite, Json.ofNumber, Json.isFinite]

theorem isFinite_double_iff {x : Float} : (double x).IsFinite ↔ x.isFinite = true := by
  simp [IsFinite, Json.ofNumber, Json.isFinite]

theorem isFinite_of_lt_of_lt {x : Float} {low high : Int} (hlow : lt (int low) (double x) = true)
    (hhigh : lt (double x) (int high) = true) : x.isFinite = true := by
  simp only [lt, exact, beq_iff_eq] at hlow hhigh
  cases h : Exact.ofDouble x with
  | undefined => simp [h, Exact.ofInt, Exact.compare?] at hlow
  | infinite negative =>
      cases negative <;> simp [h, Exact.ofInt, Exact.compare?] at hlow hhigh
  | finite negative m e => exact Binary64.isFinite_of_exact h

/-- Only a number strictly between two whole ones is not put at an end of the range. -/
theorem isFinite_clamp (value : Number) (low high : Int) :
    (value.clamp (.int low) (.int high)).IsFinite := by
  unfold clamp larger smaller
  by_cases hlow : (int low).lt value
  · rw [if_pos hlow]
    by_cases hhigh : value.lt (int high)
    · rw [if_pos hhigh]
      cases value with
      | int n => exact isFinite_int n
      | double x => exact isFinite_double_iff.mpr (isFinite_of_lt_of_lt hlow hhigh)
    · rw [if_neg hhigh]
      exact isFinite_int high
  · rw [if_neg hlow]
    split
    · exact isFinite_int low
    · exact isFinite_int high

end Number

def Service.IsFinite (service : Service) : Prop :=
  ∀ name n, service.data = some (name, n) → n.IsFinite

namespace DeviceCommand

theorem isFinite_of_service? {command : DeviceCommand} {domain : String} {value : Option Number}
    {service : Service} (hvalue : ∀ n, value = some n → n.IsFinite)
    (h : command.service? domain value = some service) : service.IsFinite := by
  rintro name n hdata
  cases dataFor_of_service? h hdata with
  | brightness => exact Number.isFinite_clamp _ 0 100
  | opened => exact Number.isFinite_int 100
  | closed => exact Number.isFinite_int 0
  | position => exact Number.isFinite_clamp _ 0 100
  | volume => exact Number.isFinite_clamp _ 0 1
  | temperature hv => exact hvalue n hv

end DeviceCommand

theorem Trigger.isSmall_positionTolerance : Binary64.IsSmall Trigger.positionTolerance :=
  ⟨_, _, _, _, by rfl, by decide, by decide⟩

theorem Trigger.isFinite_compile {t : Trigger} (h : t.toJson.isFinite = true) :
    t.compile.toJson.isFinite = true := by
  cases t with
  | state entity target source =>
      cases target <;> cases source <;> rfl
  | delta entity attr direction =>
      rw [compile]
      cases namedAttribute? attr <;> rfl
  | position entity attr value =>
      have hvalue : value.isFinite = true := by
        simpa [toJson, Json.isFinite, Json.isFiniteFields] using h
      have habove := Binary64.isFinite_sub hvalue isSmall_positionTolerance
      have hbelow := Binary64.isFinite_add hvalue isSmall_positionTolerance
      simp [compile, NativeTrigger.toJson, Json.isFinite, Json.isFiniteFields, habove, hbelow]
  | time clock days =>
      cases days with
      | none => rfl
      | some days =>
          simp [compile, NativeTrigger.toJson, NativeTrigger.daysField, Weekday.listToJson,
            Json.isFinite, Json.isFiniteFields]

theorem Condition.isFinite_toJson (condition : Condition) : condition.toJson.isFinite = true := by
  cases condition with
  | time days window =>
      have hdays : Json.isFiniteFields (daysField days) = true := by
        unfold daysField
        split
        · rfl
        · simp [Weekday.listToJson, Json.isFiniteFields]
      have hwindow : Json.isFiniteFields (windowFields window) = true := by
        cases window <;> rfl
      simp [toJson, Json.isFinite, Json.isFiniteFields, Json.isFiniteFields_append, hdays, hwindow]
  | template test => rfl

theorem NativeAction.isFinite_toJson {action : NativeAction} (h : action.service.IsFinite) :
    action.toJson.isFinite = true := by
  cases hdata : action.service.data with
  | none => simp [toJson, hdata, Json.isFinite, Json.isFiniteFields]
  | some data =>
      have hnumber : (Json.ofNumber data.2).isFinite = true := h data.1 data.2 hdata
      simp [toJson, hdata, dataToJson, Json.isFinite, Json.isFiniteFields, hnumber]

theorem Action.isFinite_compile {action : Action} {native : NativeAction}
    (h : action.toJson.isFinite = true) (hcompile : action.compile = .ok native) :
    native.toJson.isFinite = true := by
  obtain ⟨service, hservice, rfl⟩ := compile_eq_ok_iff.mp hcompile
  obtain ⟨command, -, hcommand⟩ := serviceFor?_eq_some_iff.mp hservice
  apply NativeAction.isFinite_toJson
  refine DeviceCommand.isFinite_of_service? ?_ hcommand
  intro n hn
  obtain ⟨x, hx, rfl⟩ := Option.map_eq_some_iff.mp hn
  have hvalue : x.isFinite = true := by
    simpa [toJson, hx, valueToJson, Json.isFinite, Json.isFiniteFields] using h
  exact Number.isFinite_double_iff.mpr hvalue

namespace Draft

theorem isFinite_toJson_iff {draft : Draft} :
    draft.toJson.isFinite = true ↔
      (∀ t ∈ draft.triggers, t.toJson.isFinite = true) ∧
        ∀ action ∈ draft.actions, action.toJson.isFinite = true := by
  have hdays : (Weekday.listToJson draft.days).isFinite = true := by
    cases draft.days <;> simp [Weekday.listToJson, Json.isFinite]
  simp [toJson, Json.isFinite, Json.isFiniteFields, Json.isFiniteItems_iff, hdays]

/-- The configuration of a finite draft is finite. -/
theorem isFinite_compile {draft : Draft} (h : draft.toJson.isFinite = true) :
    draft.compile.toJson.isFinite = true := by
  obtain ⟨htriggers, hactions⟩ := isFinite_toJson_iff.mp h
  have hid : Json.isFiniteFields (NativeTrigger.optionalField "id" draft.compile.id) = true := by
    cases draft.compile.id <;> rfl
  have htrigger : ∀ t ∈ draft.compile.triggers, t.toJson.isFinite = true := by
    intro t ht
    obtain ⟨source, hsource, rfl⟩ := List.mem_map.mp ht
    exact Trigger.isFinite_compile (htriggers source hsource)
  have haction : ∀ native ∈ draft.compile.actions, native.toJson.isFinite = true := by
    intro native hnative
    obtain ⟨action, haction, hcompile⟩ := List.mem_filterMap.mp hnative
    refine Action.isFinite_compile (hactions action haction) ?_
    cases hresult : action.compile with
    | ok other =>
        rw [hresult] at hcompile
        exact congrArg Except.ok (Option.some.inj hcompile)
    | error why =>
        rw [hresult] at hcompile
        cases hcompile
  have hconditions :
      Json.isFiniteFields (NativeAutomation.conditionsField draft.compile.conditions) = true := by
    unfold NativeAutomation.conditionsField
    split
    · rfl
    · simp [Json.isFiniteFields, Json.isFinite, Json.isFiniteItems_iff, Condition.isFinite_toJson]
  rw [NativeAutomation.toJson, NativeAutomation.toFields, Json.isFinite,
    Json.isFiniteFields_append, Json.isFiniteFields_append, hid, hconditions]
  simpa [Json.isFiniteFields, Json.isFinite, Json.isFiniteItems_iff] using ⟨htrigger, haction⟩

end Draft

end HomeAutomation
