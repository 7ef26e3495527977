import HomeAutomation.Proofs.Backend.Change

/-!
# Under which id a draft is kept

The hub keeps the configuration of a draft under the id of the draft, or under its name if it has
none (`configId_compile`). The generated id is never needed, because no draft is without a name.
The same id is put into the configuration, where it changes nothing if it stands there already
(`NativeAutomation.insert_id`).
-/

namespace HomeAutomation

open Text

/-- The id under which a new automation is kept: its own, or its name if it has none. -/
def Draft.key (draft : Draft) : String :=
  (nonEmpty? draft.id).getD draft.title.val

theorem nonEmpty?_eq_some {given : Option String} {s : String} (h : nonEmpty? given = some s) :
    given = some s ∧ s ≠ "" := by
  cases given with
  | none => exact absurd h nofun
  | some t =>
      by_cases hempty : t = ""
      · simp [nonEmpty?, hempty] at h
      · obtain rfl : t = s := by simpa [nonEmpty?, hempty] using h
        exact ⟨rfl, hempty⟩

theorem nonEmpty?_some {s : String} (h : s ≠ "") : nonEmpty? (some s) = some s := by
  simp [nonEmpty?, h]

theorem Draft.key_ne_empty (draft : Draft) : draft.key ≠ "" := by
  unfold key
  cases h : nonEmpty? draft.id with
  | none => exact draft.title.property
  | some id => exact (nonEmpty?_eq_some h).2

theorem Draft.key_withId (draft : Draft) {id : String} (h : id ≠ "") :
    (draft.withId id).key = id := by
  rw [key, withId, nonEmpty?_some h, Option.getD_some]

namespace NativeAutomation

theorem get?_id_of_some {config : NativeAutomation} {id : String} (h : config.id = some id) :
    config.toFields.get? "id" = some (.str id) := by
  simp [toFields, h, NativeTrigger.optionalField, Json.Fields.get?_cons]

theorem get?_id_of_none {config : NativeAutomation} (h : config.id = none) :
    config.toFields.get? "id" = none := by
  by_cases hconditions : config.conditions = []
  · simp [toFields, h, NativeTrigger.optionalField, conditionsField, hconditions,
      Json.Fields.get?_cons]
  · simp [toFields, h, NativeTrigger.optionalField, conditionsField, hconditions,
      Json.Fields.get?_cons]

theorem get?_alias (config : NativeAutomation) :
    config.toFields.get? "alias" = some (.str config.title) := by
  cases h : config.id with
  | none => simp [toFields, h, NativeTrigger.optionalField, Json.Fields.get?_cons]
  | some id => simp [toFields, h, NativeTrigger.optionalField, Json.Fields.get?_cons]

theorem insert_id {config : NativeAutomation} {id : String} (h : config.id = some id) :
    config.toFields.insert "id" (.str id) = config.toFields := by
  simp [toFields, h, NativeTrigger.optionalField, Json.Fields.insert]

end NativeAutomation

theorem Json.orElse_assoc (u v w : Json) : u.orElse (v.orElse w) = (u.orElse v).orElse w := by
  unfold orElse
  cases hu : u.isVoid with
  | true => rfl
  | false => simp [hu]

/-- Of the id and the name in the configuration of a draft, the first that is not void is the
draft's key. -/
theorem id_orElse_alias_compile (draft : Draft) :
    (draft.compile.toFields.field "id").orElse (draft.compile.toFields.field "alias") =
      .str draft.key := by
  have hname := NativeAutomation.get?_alias draft.compile
  rw [Draft.key]
  cases h : nonEmpty? draft.id with
  | none =>
      have hid : draft.compile.toFields.get? "id" = none := NativeAutomation.get?_id_of_none h
      rw [Json.Fields.field, Json.Fields.field, hid, hname]
      rfl
  | some id =>
      have hid : draft.compile.toFields.get? "id" = some (.str id) :=
        NativeAutomation.get?_id_of_some h
      have hne : id ≠ "" := (nonEmpty?_eq_some h).2
      rw [Json.Fields.field, hid]
      simp [Json.orElse, Json.isVoid, hne]

theorem Draft.isVoid_key (draft : Draft) : (Json.str draft.key).isVoid = false := by
  simp [Json.isVoid, draft.key_ne_empty]

theorem configId_compile (draft : Draft) (clock : Int) :
    configId draft.compile.toFields clock = draft.key := by
  rw [configId, Json.orElse_assoc, id_orElse_alias_compile, Json.orElse, draft.isVoid_key]
  rfl

namespace Change

/-- A draft is written to the address of its key, with the key as the id. -/
theorem writeOrder_compile (draft : Draft) (clock : Int) :
    writeOrder draft.compile clock =
      ⟨"POST", Hub.configPath draft.key,
        .obj (draft.compile.toFields.insert "id" (.str draft.key))⟩ := by
  rw [writeOrder, configId_compile]

theorem writeOrder_compile_withId (draft : Draft) (clock : Int) {id : String} (h : id ≠ "") :
    writeOrder (draft.withId id).compile clock =
      ⟨"POST", Hub.configPath id, (draft.withId id).compile.toJson⟩ := by
  have hid : (draft.withId id).compile.id = some id := nonEmpty?_some h
  rw [writeOrder_compile, draft.key_withId h, NativeAutomation.insert_id hid,
    NativeAutomation.toJson]

end Change

end HomeAutomation
