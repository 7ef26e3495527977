import HomeAutomation.Proofs.Double.Order
import HomeAutomation.Proofs.Draft.MissingNumber
import HomeAutomation.Proofs.Native.Data

/-!
# The numbers that the hub is sent

A native action holds no `null`, and its data is one named number (`Action.IsSoundData`). For a
brightness, a position and a volume the hub takes the numbers of a range only (`hubRange?`), and it
is sent no other, whatever number the action came with. A number that was in the range keeps its
value on the way, unless the command is to open or to close a blind.
-/

namespace HomeAutomation

/-- One value occurs in another, at any depth. -/
inductive Json.Occurs (part : Json) : Json → Prop
  | self : Occurs part part
  | item {v : Json} {items : List Json} (hmem : v ∈ items) (h : Occurs part v) :
    Occurs part (.arr items)
  | field {name : String} {v : Json} {fields : Json.Fields} (hmem : (name, v) ∈ fields)
    (h : Occurs part v) : Occurs part (.obj fields)

namespace Json

theorem not_occurs_null_str (s : String) : ¬ Occurs .null (.str s) := nofun

theorem not_occurs_null_ofNumber (n : Number) : ¬ Occurs .null (.ofNumber n) := by
  cases n <;> nofun

theorem not_occurs_null_obj {fields : Fields}
    (h : ∀ entry ∈ fields, ¬ Occurs .null entry.2) : ¬ Occurs .null (.obj fields) := by
  rintro ⟨⟩
  exact h _ ‹_› ‹_›

end Json

theorem NativeAction.not_occurs_null (native : NativeAction) :
    ¬ Json.Occurs .null native.toJson := by
  have htarget : ¬ Json.Occurs .null (.obj [("entity_id", .str native.entity)]) :=
    Json.not_occurs_null_obj (by simpa using Json.not_occurs_null_str _)
  have hdata (data : String × Number) : ¬ Json.Occurs .null (dataToJson data) :=
    Json.not_occurs_null_obj (by simpa using Json.not_occurs_null_ofNumber data.2)
  apply Json.not_occurs_null_obj
  cases native.service.data with
  | none => simpa using ⟨Json.not_occurs_null_str _, htarget⟩
  | some data => simpa using ⟨Json.not_occurs_null_str _, htarget, hdata data⟩

/-- The range that the hub wants the number under a name to be in, if there is one. -/
def hubRange? : String → Option (Int × Int)
  | "brightness_pct" => some (0, 100)
  | "position" => some (0, 100)
  | "volume_level" => some (0, 1)
  | _ => none

namespace DeviceCommand

theorem percentage_eqv {value : Number} (h : value.IsIn 0 100) :
    (percentage (some value)).eqv value = true := by
  by_cases hzero : value.isZero = true
  · rw [percentage, numberOrZero_of_isZero hzero, ← percentage, percentage_none, Number.eqv_comm]
    exact hzero
  · rw [percentage, numberOrZero, if_neg hzero]
    exact Number.clamp_eqv (by decide) h

theorem share_eqv {x : Float} (h : (Number.double (x / 100.0)).IsIn 0 1) :
    (share (some (.double x))).eqv (.double (x / 100.0)) = true := by
  by_cases hzero : (Number.double x).isZero = true
  · rw [share, numberOrZero_of_isZero hzero, ← share, share_none, Number.eqv_comm]
    exact Number.isZero_hundredth hzero
  · rw [share, numberOrZero, if_neg hzero]
    exact Number.clamp_eqv (by decide) h

end DeviceCommand

namespace Action

/-- The number of an action in the unit of a name: a volume is counted in hundredths. -/
def counted? (action : Action) (name : String) : Option Number :=
  action.value.map fun x => .double (if name = "volume_level" then x / 100.0 else x)

/-- The position that a command has of its own. -/
def ownPosition? (action : Action) : Option Number :=
  if action.command = "blind/open" then some (.int 100)
  else if action.command = "blind/close" then some (.int 0)
  else none

/-- What the number that goes to the hub under a name has to do with the action. -/
structure IsSoundData (action : Action) (name : String) (n : Number) : Prop where
  isNamed : (hubRange? name).isSome = true ∨ name = "temperature"
  isIn : ∀ low high, hubRange? name = some (low, high) → n.IsIn low high
  /-- A command with a position of its own does not look at the number of the action. -/
  eq_own : ∀ own, action.ownPosition? = some own → n = own
  /-- For the other commands a number in the range keeps its value. -/
  eqv : action.ownPosition? = none → ∀ low high wanted, hubRange? name = some (low, high) →
    action.counted? name = some wanted → wanted.IsIn low high → n.eqv wanted = true
  temperature_eq : name = "temperature" → ∃ x, action.value = some x ∧ n = .double x

variable {action : Action} {name : String} {n : Number}

/-- A number from the action that is put into the range of its name. -/
theorem isSoundData_of_isIn {low high : Int} (hrange : hubRange? name = some (low, high))
    (hown : action.ownPosition? = none) (hisIn : n.IsIn low high)
    (heqv : ∀ wanted, action.counted? name = some wanted → wanted.IsIn low high →
      n.eqv wanted = true) : action.IsSoundData name n where
  isNamed := .inl (by rw [hrange]; rfl)
  isIn low' high' h := by
    obtain ⟨rfl, rfl⟩ := Prod.mk.inj (Option.some.inj (hrange.symm.trans h))
    exact hisIn
  eq_own own h := by rw [hown] at h; cases h
  eqv _ low' high' wanted h := by
    obtain ⟨rfl, rfl⟩ := Prod.mk.inj (Option.some.inj (hrange.symm.trans h))
    exact heqv wanted
  temperature_eq h := by subst h; cases hrange

theorem isSoundData_of_own {own : Number} (hown : action.ownPosition? = some own)
    (hisIn : own.IsIn 0 100) : action.IsSoundData "position" own where
  isNamed := .inl rfl
  isIn low high h := by
    obtain ⟨rfl, rfl⟩ := Prod.mk.inj (Option.some.inj h)
    exact hisIn
  eq_own other h := Option.some.inj (hown.symm.trans h)
  eqv h := by rw [hown] at h; cases h
  temperature_eq := nofun

theorem isSoundData_percentage (hname : name = "brightness_pct" ∨ name = "position")
    (hown : action.ownPosition? = none) :
    action.IsSoundData name (DeviceCommand.percentage (action.value.map .double)) := by
  have hrange : hubRange? name = some (0, 100) := by
    rcases hname with rfl | rfl <;> rfl
  have hvolume : name ≠ "volume_level" := by
    rcases hname with rfl | rfl <;> decide
  refine isSoundData_of_isIn hrange hown (Number.clamp_isIn (by decide) _) ?_
  intro wanted hwanted hin
  obtain ⟨x, hx, rfl⟩ := Option.map_eq_some_iff.mp hwanted
  rw [if_neg hvolume] at hin ⊢
  rw [hx]
  exact DeviceCommand.percentage_eqv hin

theorem isSoundData_share (hown : action.ownPosition? = none) :
    action.IsSoundData "volume_level" (DeviceCommand.share (action.value.map .double)) := by
  refine isSoundData_of_isIn rfl hown (Number.clamp_isIn (by decide) _) ?_
  intro wanted hwanted hin
  obtain ⟨x, hx, rfl⟩ := Option.map_eq_some_iff.mp hwanted
  rw [if_pos rfl] at hin ⊢
  rw [hx]
  exact DeviceCommand.share_eqv hin

theorem isSoundData_temperature {x : Float} (hown : action.ownPosition? = none)
    (hx : action.value = some x) : action.IsSoundData "temperature" (.double x) where
  isNamed := .inr rfl
  isIn := nofun
  eq_own own h := by rw [hown] at h; cases h
  eqv _ _ _ _ := nofun
  temperature_eq _ := ⟨x, hx, rfl⟩

theorem isSoundData_of_dataFor {known : DeviceCommand}
    (htext : Vocabulary.text known = action.command)
    (h : known.DataFor (action.value.map .double) name n) : action.IsSoundData name n := by
  have hown : action.ownPosition? =
      if Vocabulary.text known = "blind/open" then some (.int 100)
      else if Vocabulary.text known = "blind/close" then some (.int 0) else none := by
    rw [htext, ownPosition?]
  cases h with
  | brightness => exact isSoundData_percentage (.inl rfl) hown
  | position => exact isSoundData_percentage (.inr rfl) hown
  | opened => exact isSoundData_of_own hown ⟨by decide, by decide⟩
  | closed => exact isSoundData_of_own hown ⟨by decide, by decide⟩
  | volume => exact isSoundData_share hown
  | temperature hv =>
      obtain ⟨x, hx, rfl⟩ := Option.map_eq_some_iff.mp hv
      exact isSoundData_temperature hown hx

/-- A native action holds no `null`. If it has data, that is one named number, in the range that the
hub wants; it is the number of the action if that is in the range already, unless the command has a
position of its own. A temperature is the number of the action in any case. -/
theorem compile_isSoundData {native : NativeAction} (h : action.compile = .ok native) :
    ¬ Json.Occurs .null native.toJson ∧
      ∃ fields : Json.Fields, native.toJson = .obj fields ∧
        ∀ data, fields.get? "data" = some data →
          ∃ name n, data = .obj [(name, .ofNumber n)] ∧ action.IsSoundData name n := by
  obtain ⟨fields, hfields, hget⟩ := NativeAction.exists_fields native
  refine ⟨native.not_occurs_null, fields, hfields, ?_⟩
  intro data hdata
  obtain ⟨service, hservice, rfl⟩ := compile_eq_ok_iff.mp h
  obtain ⟨known, hknown, hservice⟩ := serviceFor?_eq_some_iff.mp hservice
  rw [hget, Option.map_eq_some_iff] at hdata
  obtain ⟨⟨name, n⟩, hpair, rfl⟩ := hdata
  exact ⟨name, n, rfl, isSoundData_of_dataFor hknown
    (DeviceCommand.dataFor_of_service? hservice hpair)⟩

/-- A brightness that is not a number goes out as a zero. -/
theorem compile_isSoundData_undefinedBrightness :
    let undefined : Action := ⟨"light.kitchen", "light/set_brightness", some Decimal.notANumber⟩
    let native : NativeAction :=
      ⟨⟨"light.turn_on", some ("brightness_pct", .int 0)⟩, "light.kitchen"⟩
    undefined.compile = .ok native ∧ ¬ Json.Occurs .null native.toJson ∧
      (Number.int 0).IsIn 0 100 := by
  intro undefined native
  have hcompile : undefined.compile = .ok native := by decide +kernel
  obtain ⟨hnull, fields, hfields, hdata⟩ := compile_isSoundData hcompile
  obtain rfl := Json.obj.inj hfields
  obtain ⟨name, n, hentry, hsound⟩ := hdata _ rfl
  have hwritten : Json.obj [("brightness_pct", .int 0)] = .obj [(name, .ofNumber n)] := hentry
  simp only [Json.obj.injEq, List.cons.injEq, Prod.mk.injEq] at hwritten
  obtain ⟨⟨rfl, hn⟩, -⟩ := hwritten
  have hzero : n = .int 0 := by
    cases n with
    | int k => rw [← Json.int.inj hn]
    | double x => cases hn
  exact ⟨hcompile, hnull, hzero ▸ hsound.isIn 0 100 rfl⟩

/-- Opening a blind opens it all the way, though the action asks for a half. -/
theorem compile_opening_ne_value :
    let opening : Action := ⟨"cover.blind", "blind/open", some 50.0⟩
    ∃ (native : NativeAction) (fields : Json.Fields),
      opening.compile = .ok native ∧ native.toJson = .obj fields ∧
        fields.get? "data" = some (.obj [("position", .int 100)]) ∧
        opening.counted? "position" = some (.double 50.0) ∧ (Number.double 50.0).IsIn 0 100 ∧
        (Number.int 100).eqv (.double 50.0) = false := by
  intro opening
  have hcompile : opening.compile =
      .ok ⟨⟨"cover.set_cover_position", some ("position", .int 100)⟩, "cover.blind"⟩ := rfl
  exact ⟨_, _, hcompile, rfl, rfl, rfl, ⟨by decide +kernel, by decide +kernel⟩, by decide +kernel⟩

end Action

end HomeAutomation
