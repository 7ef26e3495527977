import HomeAutomation.Validation.Reader

/-!
# Fields by their values

To a reader a field is its value, and a field that is not there has the value `null`
(`Key.value`). An optional field is valid exactly when that value is (`optional_eq_valid_iff`), and
a required one takes any value but `null`. So an object may leave a field out or write `null` for
it: leaving out the named values that are `null` keeps the value of every field that is written
under one name (`value_withoutNullsFields`).
-/

namespace HomeAutomation

namespace Checked

variable {α β : Type}

theorem under_eq_valid_iff {step : Step} {x : Checked α} {a : α} :
    x.under step = .valid a ↔ x = .valid a := by
  cases x with
  | valid b => rfl
  | invalid issues => simp [under]

/-- What is true of all values of a function is true of the value that it gives here. -/
theorem forall_valid_map {P : β → Prop} {f : α → β} {x : Checked α} (h : ∀ a, P (f a)) :
    ∀ b, f <$> x = .valid b → P b := by
  intro b hb
  cases x with
  | valid a =>
      cases hb
      exact h a
  | invalid issues => cases hb

theorem forall_valid_seq {P : β → Prop} {f : Checked (α → β)} {x : Checked α}
    (h : ∀ g, f = .valid g → ∀ a, P (g a)) : ∀ b, f <*> x = .valid b → P b := by
  intro b hb
  cases f with
  | valid g =>
      cases x with
      | valid a =>
          cases hb
          exact h g rfl a
      | invalid issues => cases hb
  | invalid issues =>
      cases x with
      | valid a => cases hb
      | invalid more => cases hb

end Checked

/-- The value of a field, `null` if it is not there. -/
def Key.value (key : Key) (fields : Json.Fields) : Json :=
  ((key.find? fields).map Prod.snd).getD .null

theorem Key.value_eq (key : Key) (fields : Json.Fields) :
    key.value fields = ((fields.get? key.wire).or (fields.get? key.plain)).getD .null := by
  unfold value find?
  cases fields.get? key.wire with
  | some v => rfl
  | none =>
      cases fields.get? key.plain with
      | some v => rfl
      | none => rfl

namespace Json.Fields

variable {α : Type} {fields : Fields} {key : Key} {read : Reader α} {v : Json} {a : α}

theorem find?_of_value_ne_null (h : key.value fields ≠ .null) :
    ∃ name, key.find? fields = some (name, key.value fields) := by
  unfold Key.value at h ⊢
  cases hfind : key.find? fields with
  | none =>
      rw [hfind] at h
      exact absurd rfl h
  | some entry => exact ⟨entry.1, rfl⟩

theorem optional_eq_valid_iff {a : Option α} :
    fields.optional key read = .valid a ↔ Reader.nullable read (key.value fields) = .valid a := by
  unfold optional orDefault Key.value
  cases key.find? fields with
  | none => rfl
  | some entry => exact Checked.under_eq_valid_iff

theorem required_eq_valid (hvalue : key.value fields = v) (hne : v ≠ .null)
    (h : read v = .valid a) : fields.required key read = .valid a := by
  subst hvalue
  obtain ⟨name, hfind⟩ := find?_of_value_ne_null hne
  rw [required, hfind]
  exact Checked.under_eq_valid_iff.mpr h

theorem orDefault_eq_valid (hvalue : key.value fields = v) (hne : v ≠ .null)
    (h : read v = .valid a) (default : α) : fields.orDefault key default read = .valid a := by
  subst hvalue
  obtain ⟨name, hfind⟩ := find?_of_value_ne_null hne
  rw [orDefault, hfind]
  exact Checked.under_eq_valid_iff.mpr h

theorem required_text_eq {s : String} (h : key.value fields = .str s) :
    fields.required key Reader.text = .valid s :=
  required_eq_valid h nofun rfl

theorem optional_text_eq {s : Option String} (h : key.value fields = .ofText? s) :
    fields.optional key Reader.text = .valid s := by
  rw [optional_eq_valid_iff, h]
  cases s with
  | none => rfl
  | some s => rfl

theorem ofKind_eq {kind : String} (h : fields.get? "kind" = some (.str kind)) :
    fields.ofKind kind = .valid () := by
  have hfind : (Key.single "kind").find? fields = some ("kind", .str kind) := Key.find?_of_wire h
  rw [ofKind, orDefault, hfind]
  simp [Reader.exactly]

end Json.Fields

namespace Reader

variable {α : Type} {read : Reader α} {write : α → Json}

theorem word_text [Vocabulary α] (w : α) : word (.str (Vocabulary.text w)) = .valid w := by
  rw [word, Vocabulary.ofText?_text]

theorem text_str (s : String) : text (.str s) = .valid s := rfl

theorem number_double (x : Float) : number (.double x) = .valid x := rfl

theorem truth_bool (b : Bool) : truth (.bool b) = .valid b := rfl

/-- A value other than `null` is read as it would be if `null` were not allowed. -/
theorem nullable_eq_valid {v : Json} {a : α} (hne : v ≠ .null) (h : read v = .valid a) :
    nullable read v = .valid (some a) := by
  unfold nullable
  split
  · exact absurd rfl hne
  · rw [h]
    rfl

theorem nullable_word_ofText? [Vocabulary α] (w : Option α) :
    nullable word (.ofText? (w.map Vocabulary.text)) = .valid w := by
  cases w with
  | none => rfl
  | some w => exact nullable_eq_valid nofun (word_text w)

theorem items_map {values : List α} (h : ∀ a ∈ values, read (write a) = .valid a) (index : Nat) :
    items read index (values.map write) = .valid values := by
  induction values generalizing index with
  | nil => rfl
  | cons a rest ih =>
      obtain ⟨ha, hrest⟩ := List.forall_mem_cons.mp h
      rw [List.map_cons, items, ha, ih hrest]
      rfl

theorem list_map {values : List α} (h : ∀ a ∈ values, read (write a) = .valid a) :
    list read (.arr (values.map write)) = .valid values :=
  items_map h 0

theorem nonEmptyList_map {first : α} {rest : List α}
    (h : ∀ a ∈ first :: rest, read (write a) = .valid a) :
    nonEmptyList read (.arr ((first :: rest).map write)) = .valid (first, rest) := by
  obtain ⟨hfirst, hrest⟩ := List.forall_mem_cons.mp h
  rw [List.map_cons, nonEmptyList, hfirst, items_map hrest]
  rfl

theorem list_word_ofTexts [Vocabulary α] (words : List α) :
    list word (.ofTexts (words.map Vocabulary.text)) = .valid words := by
  rw [Json.ofTexts, List.map_map]
  exact list_map fun w _ => word_text w

/-- An object is read as its kind says. -/
theorem tagged_eq_valid {kinds : List (String × (Json.Fields → Checked α))} {kind : String}
    {member : Json.Fields → Checked α} {fields : Json.Fields} {a : α}
    (hkind : fields.get? "kind" = some (.str kind)) (hmember : kinds.lookup kind = some member)
    (h : member fields = .valid a) : tagged kinds (.obj fields) = .valid a := by
  simp [tagged, hkind, hmember, h]

end Reader

namespace Json

/-- A text holds no nulls. -/
@[simp] theorem withoutNulls_ofText? (s : Option String) :
    (ofText? s).withoutNulls = ofText? s := by
  cases s with
  | none => simp [ofText?, withoutNulls]
  | some s => simp [ofText?, withoutNulls]

theorem withoutNullsItems_eq_map (items : List Json) :
    withoutNullsItems items = items.map withoutNulls := by
  induction items with
  | nil => rw [withoutNullsItems, List.map_nil]
  | cons v rest ih => rw [withoutNullsItems, ih, List.map_cons]

theorem isNull_iff {v : Json} : v.isNull = true ↔ v = .null := by
  cases v <;> simp [isNull]

theorem Fields.get?_eq_none_iff {fields : Fields} {name : String} :
    fields.get? name = none ↔ name ∉ fields.map Prod.fst := by
  induction fields with
  | nil => simp
  | cons entry rest ih =>
      obtain ⟨n, v⟩ := entry
      rw [get?_cons]
      by_cases h : name = n
      · simp [h]
      · simp [h, ih]

theorem get?_withoutNullsFields {fields : Fields} (h : (fields.map Prod.fst).Nodup)
    (name : String) :
    Fields.get? (withoutNullsFields fields) name =
      (fields.get? name).bind fun v => if v.isNull then none else some v.withoutNulls := by
  induction fields with
  | nil => rw [withoutNullsFields, Fields.get?_nil, Option.bind_none]
  | cons entry rest ih =>
      obtain ⟨n, v⟩ := entry
      rw [List.map_cons, List.nodup_cons] at h
      obtain ⟨hn, hrest⟩ := h
      rw [withoutNullsFields, Fields.get?_cons]
      by_cases hname : name = n
      · subst hname
        rw [if_pos rfl, Option.bind_some]
        by_cases hnull : v.isNull = true
        · have hnone : Fields.get? rest name = none := Fields.get?_eq_none_iff.mpr hn
          rw [if_pos hnull, if_pos hnull, ih hrest, hnone, Option.bind_none]
        · rw [if_neg hnull, if_neg hnull, Fields.get?_cons, if_pos rfl]
      · rw [if_neg hname, ← ih hrest]
        by_cases hnull : v.isNull = true
        · rw [if_pos hnull]
        · rw [if_neg hnull, Fields.get?_cons, if_neg hname]

/-- A field with one name in the object keeps its value when nulls are left out. -/
theorem value_withoutNullsFields {fields : Fields} (h : (fields.map Prod.fst).Nodup) {key : Key}
    (hplain : key.plain = key.wire ∨ key.plain ∉ fields.map Prod.fst) :
    key.value (withoutNullsFields fields) = (key.value fields).withoutNulls := by
  have hcleaned (found : Option Json) :
      (found.bind fun v => if v.isNull then none else some v.withoutNulls).getD .null =
        (found.getD .null).withoutNulls := by
    cases found with
    | none => simp [withoutNulls]
    | some v =>
        by_cases hnull : v.isNull = true
        · simp [isNull_iff.mp hnull, withoutNulls, isNull]
        · simp [hnull]
  rw [Key.value_eq, Key.value_eq, get?_withoutNullsFields h, get?_withoutNullsFields h]
  rcases hplain with heq | hnone
  · rw [heq, Option.or_self, Option.or_self, hcleaned]
  · rw [Fields.get?_eq_none_iff.mpr hnone, Option.bind_none, Option.or_none, Option.or_none,
      hcleaned]

end Json

end HomeAutomation
