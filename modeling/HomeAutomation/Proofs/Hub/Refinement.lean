import HomeAutomation.Proofs.Backend.Key
import HomeAutomation.Proofs.Hub.Store

/-!
# Changes refine the store

`Change.applyTo` says what a change should do to the configurations that the hub keeps, without any
talk of requests. One change made through the fallback does that to them (`kept_perform`), and so
does a sequence of changes (`performAll_refines_store`). At every point of a sequence, what was
written carries the id under which it is kept (`keyedAt_foldl`): the change that writes it puts the
id in, and no later change spoils that.
-/

namespace HomeAutomation

namespace Change

/-- What a change should do to the configurations that are kept. -/
def applyTo (change : Change) (store : ConfigStore) : ConfigStore :=
  match change with
  | create _ draft =>
    match draft.checked with
    | .ok config => store.insert draft.key (.obj (config.toFields.insert "id" (.str draft.key)))
    | .error _ => store
  | update _ id draft =>
    match draft.checked with
    | .ok _ => store.insert id (draft.withId id).compile.toJson
    | .error _ => store
  | delete id => store.erase id
  | setEnabled .. => store

/-- If the change names an automation by an id, the id is not empty. -/
def HasId : Change → Prop
  | create .. | setEnabled .. => True
  | update _ id _ | delete id => id ≠ ""

theorem applyTo_of_not_isSendable {change : Change} (h : ¬ change.IsSendable)
    (store : ConfigStore) : change.applyTo store = store := by
  cases change with
  | create clock draft =>
      rw [isSendable_iff rfl] at h
      obtain ⟨why, hwhy⟩ := Draft.exists_rejection h
      rw [applyTo, hwhy]
  | update clock id draft =>
      rw [isSendable_iff rfl] at h
      obtain ⟨why, hwhy⟩ := Draft.exists_rejection h
      rw [applyTo, hwhy]
  | delete id => exact absurd nofun h
  | setEnabled id enabled => exact absurd nofun h

/-- The change writes the configuration of an accepted draft under the id. -/
def Writes (change : Change) (id : String) : Prop :=
  match change with
  | create _ draft => draft.IsAccepted ∧ draft.key = id
  | update _ other draft => draft.IsAccepted ∧ other = id
  | delete _ | setEnabled .. => False

end Change

/-- What is kept under the id, if anything, is an object that carries the same id. -/
def ConfigStore.KeyedAt (store : ConfigStore) (id : String) : Prop :=
  ∀ config, store.lookup id = some config →
    ∃ fields : Json.Fields, config = .obj fields ∧ fields.get? "id" = some (.str id)

namespace ConfigStore.KeyedAt

variable {store : ConfigStore} {id : String}

theorem insert_self (fields : Json.Fields) (h : fields.get? "id" = some (.str id)) :
    KeyedAt (store.insert id (.obj fields)) id := by
  intro config hconfig
  rw [Finmap.lookup_insert] at hconfig
  exact ⟨fields, (Option.some.inj hconfig).symm, h⟩

theorem insert_of_ne (h : KeyedAt store id) {other : String} (hne : id ≠ other) (config : Json) :
    KeyedAt (store.insert other config) id := by
  intro found hfound
  rw [Finmap.lookup_insert_of_ne _ hne] at hfound
  exact h found hfound

theorem erase (h : KeyedAt store id) (other : String) : KeyedAt (store.erase other) id := by
  intro config hconfig
  by_cases hne : id = other
  · rw [hne, Finmap.lookup_erase] at hconfig
    exact absurd hconfig nofun
  · rw [Finmap.lookup_erase_ne hne] at hconfig
    exact h config hconfig

end ConfigStore.KeyedAt

namespace Change

theorem keyedAt_applyTo_of_writes {change : Change} {id : String} (h : change.Writes id)
    (hid : change.HasId) (store : ConfigStore) : (change.applyTo store).KeyedAt id := by
  cases change with
  | create clock draft =>
      obtain ⟨haccepted, rfl⟩ := h
      rw [applyTo, haccepted.checked_eq]
      exact .insert_self _ (Json.Fields.get?_insert_self _ _ _)
  | update clock other draft =>
      obtain ⟨haccepted, rfl⟩ := h
      have hother : (draft.withId other).compile.id = some other := nonEmpty?_some hid
      rw [applyTo, haccepted.checked_eq]
      exact .insert_self _ (NativeAutomation.get?_id_of_some hother)
  | delete other => exact h.elim
  | setEnabled other enabled => exact h.elim

theorem keyedAt_applyTo (change : Change) {id : String} (hid : change.HasId)
    {store : ConfigStore} (h : store.KeyedAt id) : (change.applyTo store).KeyedAt id := by
  by_cases hwrites : change.Writes id
  · exact keyedAt_applyTo_of_writes hwrites hid store
  · by_cases hsend : change.IsSendable
    · cases change with
      | create clock draft =>
          have haccepted := hsend draft rfl
          have hne : id ≠ draft.key := fun heq => hwrites ⟨haccepted, heq.symm⟩
          rw [applyTo, haccepted.checked_eq]
          exact h.insert_of_ne hne _
      | update clock other draft =>
          have haccepted := hsend draft rfl
          have hne : id ≠ other := fun heq => hwrites ⟨haccepted, heq.symm⟩
          rw [applyTo, haccepted.checked_eq]
          exact h.insert_of_ne hne _
      | delete other => exact h.erase other
      | setEnabled other enabled => exact h
    · rw [applyTo_of_not_isSendable hsend]
      exact h

theorem keyedAt_foldl (changes : List Change) {id : String} (hid : ∀ change ∈ changes, change.HasId)
    (store : ConfigStore) (h : store.KeyedAt id ∨ ∃ change ∈ changes, change.Writes id) :
    (changes.foldl (fun store change => change.applyTo store) store).KeyedAt id := by
  induction changes generalizing store with
  | nil =>
      rcases h with hkeyed | ⟨change, hmem, _⟩
      · exact hkeyed
      · exact absurd hmem List.not_mem_nil
  | cons first rest ih =>
      obtain ⟨hfirst, hrest⟩ := List.forall_mem_cons.mp hid
      apply ih hrest
      rcases h with hkeyed | ⟨change, hmem, hwrites⟩
      · exact Or.inl (first.keyedAt_applyTo hfirst hkeyed)
      · rcases List.mem_cons.mp hmem with rfl | hmem
        · exact Or.inl (keyedAt_applyTo_of_writes hwrites hfirst store)
        · exact Or.inr ⟨change, hmem, hwrites⟩

end Change

section Refinement

variable {σ : Type} {hub : Hub} {transport : σ → Request → Reply × σ} {kept : σ → ConfigStore}
  {backends : Backends} {access : Access}

namespace KeepsConfigs

/-- The request for a change moves the store as the change should. -/
theorem kept_hubOrder (h : KeepsConfigs hub transport kept) {change : Change}
    (hsend : change.IsSendable) (hid : change.HasId) (s : σ) :
    kept (transport s (hub.requestOf change.hubOrder)).2 = change.applyTo (kept s) := by
  cases change with
  | create clock draft =>
      have hchecked := (hsend draft rfl).checked_eq
      rw [Change.hubOrder, Change.writeOrder_compile, h.kept_write s draft.key_ne_empty,
        Change.applyTo, hchecked]
  | update clock id draft =>
      have hchecked := (hsend draft rfl).checked_eq
      rw [Change.hubOrder, Change.writeOrder_compile_withId draft clock hid,
        h.kept_write s hid, Change.applyTo, hchecked]
  | delete id => exact h.kept_remove s hid
  | setEnabled id enabled =>
      exact h.kept_other s _ fun _ => hub.configSegment?_service _

/-- With no platform, a change that is made moves the store as it should. -/
theorem kept_perform (h : KeepsConfigs hub transport kept) (hurl : backends.platform.url = "")
    (hhub : backends.hub? access = some hub) {change : Change} (hid : change.HasId) (s : σ) :
    kept ((change.perform backends access).run transport s).2.2 = change.applyTo (kept s) := by
  by_cases hsend : change.IsSendable
  · rw [Change.run_perform_of_no_url backends access transport s hsend hurl hhub]
    exact h.kept_hubOrder hsend hid s
  · obtain ⟨why, hwhy⟩ := Change.perform_of_not_isSendable hsend backends access
    rw [hwhy, Dialogue.run_done, Change.applyTo_of_not_isSendable hsend]

/-- With no platform, a change that writes or removes a configuration is accepted by the hub. -/
theorem perform_accepted (h : KeepsConfigs hub transport kept)
    (hurl : backends.platform.url = "") (hhub : backends.hub? access = some hub)
    {change : Change} (hsend : change.IsSendable) (hid : change.HasId)
    (hconfig : ∀ id enabled, change ≠ .setEnabled id enabled) (s : σ) :
    ((change.perform backends access).run transport s).1 = .ok (.accepted .hub) := by
  rw [Change.run_perform_of_no_url backends access transport s hsend hurl hhub]
  obtain ⟨response, hresponse, hlow, hhigh⟩ :
      ∃ response : Response, (transport s (hub.requestOf change.hubOrder)).1 = .ok response ∧
        200 ≤ response.status ∧ response.status < 300 := by
    cases change with
    | create clock draft =>
        rw [Change.hubOrder, Change.writeOrder_compile]
        exact h.answered s _ _ (Or.inl rfl) (hub.configSegment?_configPath draft.key_ne_empty)
    | update clock id draft =>
        rw [Change.hubOrder, Change.writeOrder_compile_withId draft clock hid]
        exact h.answered s _ _ (Or.inl rfl) (hub.configSegment?_configPath hid)
    | delete id => exact h.answered s _ _ (Or.inr rfl) (hub.configSegment?_configPath hid)
    | setEnabled id enabled => exact absurd rfl (hconfig id enabled)
  have hok : response.isOk = true := by
    simp [Response.isOk]
    omega
  rw [hresponse, Hub.conclude, if_pos hok]

end KeepsConfigs

/-- The state after changes made one after the other. -/
def performAll (backends : Backends) (access : Access) (transport : σ → Request → Reply × σ)
    (changes : List Change) (s : σ) : σ :=
  changes.foldl (fun s change => ((change.perform backends access).run transport s).2.2) s

/-- With no platform, a sequence of changes moves the store as the changes should one after the
other. -/
theorem KeepsConfigs.kept_performAll (h : KeepsConfigs hub transport kept)
    (hurl : backends.platform.url = "") (hhub : backends.hub? access = some hub)
    (changes : List Change) (hid : ∀ change ∈ changes, change.HasId) (s : σ) :
    kept (performAll backends access transport changes s) =
      changes.foldl (fun store change => change.applyTo store) (kept s) := by
  induction changes generalizing s with
  | nil => rfl
  | cons first rest ih =>
      obtain ⟨hfirst, hrest⟩ := List.forall_mem_cons.mp hid
      rw [performAll, List.foldl_cons, List.foldl_cons, ← h.kept_perform hurl hhub hfirst s]
      exact ih hrest _

/-- With no platform and a hub that keeps its configurations, any sequence of changes leaves the
store as the changes should, and what one of them has written carries the id under which it is
kept. -/
theorem performAll_refines_store (h : KeepsConfigs hub transport kept)
    (hurl : backends.platform.url = "") (hhub : backends.hub? access = some hub)
    (changes : List Change) (hid : ∀ change ∈ changes, change.HasId) (s : σ) :
    kept (performAll backends access transport changes s) =
        changes.foldl (fun store change => change.applyTo store) (kept s) ∧
      ∀ id, (∃ change ∈ changes, change.Writes id) →
        (kept (performAll backends access transport changes s)).KeyedAt id := by
  have hkept := h.kept_performAll hurl hhub changes hid s
  constructor
  · exact hkept
  · intro id hwrites
    rw [hkept]
    exact Change.keyedAt_foldl changes hid (kept s) (Or.inr hwrites)

end Refinement

/-- An automation is created under its name, a copy is written under an id with a slash in it, and
the first one is deleted. -/
theorem performAll_refines_store_eveningLights :
    let backends : Backends := ⟨.ofUrl none (.int 10), .int 10⟩
    let access : Access := ⟨some ⟨some "http://hub:8123/", none, "token"⟩, .home⟩
    let hub : Hub := ⟨"http://hub:8123", "token", .int 10⟩
    let changes : List Change := [.create 0 .eveningLights, .update 0 "salon/été" .eveningLights,
      .delete "Evening lights"]
    performAll backends access hub.keeping changes ∅ =
        changes.foldl (fun store change => change.applyTo store) ∅ ∧
      ∀ id, (∃ change ∈ changes, change.Writes id) →
        (performAll backends access hub.keeping changes ∅).KeyedAt id := by
  intro backends access hub changes
  have hurl : backends.platform.url = "" := by decide
  have hhub : backends.hub? access = some hub := by decide
  have hid : ∀ change ∈ changes, change.HasId := by
    simp [changes, Change.HasId]
  have hrefines := performAll_refines_store (keepsConfigs_keeping hub) hurl hhub changes hid ∅
  exact hrefines

end HomeAutomation
