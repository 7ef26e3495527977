import HomeAutomation.Proofs.Backend.Change

/-!
# Addressing a listed automation

The hub lists an automation because of the state of an entity. The listed id is what the entity
gives as its id, and the rest of its name if it gives none. Switching goes the other way and makes
the name of an entity from an id. The two ways meet only if the listed id is that name or the rest
of it (`IsAddressedBy`): an entity that gives an id of its own is listed under that id and is out of
reach of switching (`setEnabled_reaches_listed_iff`).
-/

namespace HomeAutomation

open Text

/-- From the id the name of the entity is made: the id is that name, or it is the rest of it and
does not look like a name itself. -/
def IsAddressedBy (entity id : String) : Prop :=
  id = entity ∨ id = dropStart automationPrefix entity ∧ beginsWith automationPrefix id = false

theorem automationEntity_eq_iff {entity : String} (id : String)
    (h : beginsWith automationPrefix entity = true) :
    automationEntity id = entity ↔ IsAddressedBy entity id := by
  unfold automationEntity IsAddressedBy
  by_cases hid : beginsWith automationPrefix id = true
  · rw [if_pos hid]
    simp [hid]
  · rw [if_neg hid]
    simp only [Bool.not_eq_true] at hid
    constructor
    · intro heq
      refine Or.inr ⟨?_, hid⟩
      rw [← heq, dropStart_append]
    · rintro (rfl | ⟨hrest, _⟩)
      · exact absurd (h.symm.trans hid) nofun
      · rw [hrest, append_dropStart h]

namespace ListedAutomation

/-- The entity whose state it is. -/
def entityName? (state : Json) : Option String :=
  state.fields?.bind fun fields => (fields.field "entity_id").text?

/-- What the entity gives as its id, `null` if it gives none. -/
def givenId (state : Json) : Json :=
  (((((state.fields?).getD []).field "attributes").fields?).getD []).field "id"

/-- The id under which an entity is listed: the one that it gives, else the rest of its name. -/
def listedId (entity : String) (given : Json) : String :=
  (given.orElse (.str (dropStart automationPrefix entity))).display

/-- An entity that gives no id is reached unless the rest of its name looks like a name. -/
theorem isAddressedBy_listedId_of_isVoid {entity : String} {given : Json}
    (hentity : beginsWith automationPrefix entity = true) (h : given.isVoid = true) :
    IsAddressedBy entity (listedId entity given) ↔
      beginsWith automationPrefix (dropStart automationPrefix entity) = false := by
  have hid : listedId entity given = dropStart automationPrefix entity := by
    rw [listedId, Json.orElse, if_pos h, Json.display]
  rw [hid]
  constructor
  · rintro (heq | ⟨_, hrest⟩)
    · have hlength := congrArg String.length (append_dropStart hentity)
      rw [heq, String.length_append] at hlength
      have hprefix : automationPrefix.length = 11 := by decide
      omega
    · exact hrest
  · intro hrest
    exact Or.inr ⟨rfl, hrest⟩

/-- The item is listed because of a state of the entity, which gives `given` as its id. -/
def IsListedFor (states : Json) (item : ListedAutomation) (entity : String) (given : Json) : Prop :=
  ∃ items state, states.items? = some items ∧ state ∈ items ∧ ofState? state = some item ∧
    entityName? state = some entity ∧ givenId state = given

/-- A state is listed under the id that its entity gives, or else under the rest of its name. -/
theorem ofState?_eq_some {state : Json} {item : ListedAutomation} (h : ofState? state = some item) :
    ∃ entity, entityName? state = some entity ∧ beginsWith automationPrefix entity = true ∧
      item.id = listedId entity (givenId state) := by
  unfold ofState? at h
  cases hfields : state.fields? with
  | none =>
      rw [hfields] at h
      exact absurd h nofun
  | some fields =>
      rw [hfields] at h
      cases hentity : (fields.field "entity_id").text? with
      | none => simp [hentity] at h
      | some entity =>
          by_cases hprefix : beginsWith automationPrefix entity = true
          · simp only [Option.bind_eq_bind, Option.bind_some, hentity, hprefix, if_true] at h
            refine ⟨entity, ?_, hprefix, ?_⟩
            · simp [entityName?, hfields, hentity]
            · rw [← Option.some.inj h, givenId, hfields]
              rfl
          · simp [hentity, hprefix] at h

namespace IsListedFor

variable {states : Json} {item : ListedAutomation} {entity : String} {given : Json}

theorem beginsWith_eq (h : IsListedFor states item entity given) :
    beginsWith automationPrefix entity = true := by
  obtain ⟨_, state, _, _, hstate, hentity, _⟩ := h
  obtain ⟨other, hother, hprefix, _⟩ := ofState?_eq_some hstate
  obtain rfl : entity = other := Option.some.inj (hentity.symm.trans hother)
  exact hprefix

theorem id_eq (h : IsListedFor states item entity given) : item.id = listedId entity given := by
  obtain ⟨_, state, _, _, hstate, hentity, rfl⟩ := h
  obtain ⟨other, hother, _, hid⟩ := ofState?_eq_some hstate
  obtain rfl : entity = other := Option.some.inj (hentity.symm.trans hother)
  exact hid

end IsListedFor

theorem mem_ofStates_iff {states : Json} {item : ListedAutomation} :
    item ∈ ofStates states ↔ ∃ entity given, IsListedFor states item entity given := by
  unfold ofStates
  rw [List.mem_filterMap]
  constructor
  · rintro ⟨state, hmem, hstate⟩
    obtain ⟨entity, hentity, _, _⟩ := ofState?_eq_some hstate
    cases hitems : states.items? with
    | none => simp [hitems] at hmem
    | some items =>
        rw [hitems] at hmem
        exact ⟨entity, _, items, state, hitems, hmem, hstate, hentity, rfl⟩
  · rintro ⟨entity, given, items, state, hitems, hmem, hstate, _, _⟩
    exact ⟨state, by rw [hitems]; exact hmem, hstate⟩

end ListedAutomation

/-- What the hub is asked to do to switch an entity on or off. -/
def Hub.switchOrder (entity : String) (enabled : Bool) : Order :=
  ⟨"POST", "/api/services/automation/" ++ (if enabled then "turn_on" else "turn_off"),
    .obj [("entity_id", .str entity)]⟩

theorem Hub.requestOf_switchOrder_injective (hub : Hub) (enabled : Bool) {entity other : String}
    (h : hub.requestOf (switchOrder entity enabled) = hub.requestOf (switchOrder other enabled)) :
    entity = other := by
  have hbody := congrArg Request.body h
  simpa [Hub.requestOf, Hub.switchOrder] using hbody

namespace Backends

variable {σ : Type} {backends : Backends} {access : Access}
  {transport : σ → Request → Reply × σ} {s t : σ} {asked : List Request} {hub : Hub}

/-- When the platform has not done it, the hub is asked to switch the entity made from the id. -/
theorem requests_setEnabled {id : String} {enabled : Bool} {e : PlatformError}
    (h : (backends.platform.setEnabled id enabled).run transport s = (.error (.told e), asked, t))
    (hhub : backends.hub? access = some hub) :
    ((backends.setEnabled access id enabled).run transport s).2.1 =
      asked ++ [hub.requestOf (Hub.switchOrder (automationEntity id) enabled)] := by
  have hsend : (Change.setEnabled id enabled).IsSendable := nofun
  have hperform := Change.perform_eq_carriedOut backends access hsend
  have hrun := (Change.setEnabled id enabled).plan.run_carriedOut_of_hub backends access transport
    h hhub
  rw [← Change.perform, hperform, hrun]
  rfl

/-- Switching by a listed id through the hub asks for the listed entity exactly when the name of
the entity is made from the id. -/
theorem setEnabled_reaches_listed_iff {states : Json} {item : ListedAutomation} {entity : String}
    {given : Json} (hitem : ListedAutomation.IsListedFor states item entity given)
    {enabled : Bool} {e : PlatformError}
    (h : (backends.platform.setEnabled item.id enabled).run transport s =
      (.error (.told e), asked, t))
    (hhub : backends.hub? access = some hub) :
    ((backends.setEnabled access item.id enabled).run transport s).2.1 =
        asked ++ [hub.requestOf (Hub.switchOrder entity enabled)] ↔
      IsAddressedBy entity (ListedAutomation.listedId entity given) := by
  rw [requests_setEnabled h hhub, ← hitem.id_eq,
    ← automationEntity_eq_iff item.id hitem.beginsWith_eq]
  constructor
  · intro heq
    have hrequest := List.append_cancel_left heq
    exact hub.requestOf_switchOrder_injective enabled (List.singleton_inj.mp hrequest)
  · intro heq
    rw [heq]

/-- An entity that gives no id is reached under the rest of its name. -/
theorem setEnabled_reaches_nightMode :
    let states : Json := .arr [.obj [("entity_id", .str "automation.night_mode"),
      ("state", .str "off"), ("attributes", .obj [])]]
    let item : ListedAutomation :=
      ⟨"night_mode", "automation.night_mode", some "", false, none, none, none⟩
    let backends : Backends := ⟨.ofUrl none (.int 10), .int 10⟩
    let access : Access := ⟨some ⟨some "http://hub:8123", none, "token"⟩, .home⟩
    let hub : Hub := ⟨"http://hub:8123", "token", .int 10⟩
    item ∈ ListedAutomation.ofStates states ∧
      ((backends.setEnabled access item.id true).run (fun n _ => (.ok ⟨200, ""⟩, n + 1))
          (0 : Nat)).2.1 =
        [] ++ [hub.requestOf (Hub.switchOrder "automation.night_mode" true)] := by
  intro states item backends access hub
  have hitem : ListedAutomation.IsListedFor states item "automation.night_mode" .null :=
    ⟨_, _, rfl, List.mem_singleton_self _, rfl, rfl, rfl⟩
  have hplatform : (backends.platform.setEnabled item.id true).run
      (fun (n : Nat) _ => (.ok ⟨200, ""⟩, n + 1)) 0 = (.error (.told .notConfigured), [], 0) :=
    (Change.setEnabled item.id true).plan.run_primary_of_no_url backends _ 0 rfl
  have hhub : backends.hub? access = some hub := by decide
  have haddressed : IsAddressedBy "automation.night_mode"
      (ListedAutomation.listedId "automation.night_mode" .null) :=
    Or.inr ⟨rfl, by decide⟩
  refine ⟨ListedAutomation.mem_ofStates_iff.mpr ⟨_, _, hitem⟩, ?_⟩
  exact (setEnabled_reaches_listed_iff hitem hplatform hhub).mpr haddressed

/-- An entity that gives an id of its own is listed under that id, and the hub is asked to switch an
entity that is not listed at all. -/
theorem setEnabled_misses_eveningLights :
    let states : Json := .arr [.obj [("entity_id", .str "automation.evening_lights"),
      ("state", .str "on"), ("attributes", .obj [("id", .str "1700000000"),
        ("friendly_name", .str "Evening lights"), ("description", .str "Dusk")])]]
    let item : ListedAutomation :=
      ⟨"1700000000", "Evening lights", some "Dusk", true, none, none, none⟩
    let backends : Backends := ⟨.ofUrl none (.int 10), .int 10⟩
    let access : Access := ⟨some ⟨some "http://hub:8123", none, "token"⟩, .home⟩
    let hub : Hub := ⟨"http://hub:8123", "token", .int 10⟩
    let requests := ((backends.setEnabled access item.id true).run
      (fun n _ => (.ok ⟨200, ""⟩, n + 1)) (0 : Nat)).2.1
    ListedAutomation.ofStates states = [item] ∧
      requests = [hub.requestOf (Hub.switchOrder "automation.1700000000" true)] ∧
      requests ≠ [hub.requestOf (Hub.switchOrder "automation.evening_lights" true)] := by
  intro states item backends access hub requests
  have hplatform : (backends.platform.setEnabled item.id true).run
      (fun (n : Nat) _ => (.ok ⟨200, ""⟩, n + 1)) 0 = (.error (.told .notConfigured), [], 0) :=
    (Change.setEnabled item.id true).plan.run_primary_of_no_url backends _ 0 rfl
  have hhub : backends.hub? access = some hub := by decide
  have hmade : automationEntity item.id = "automation.1700000000" := by decide
  have hrequests := requests_setEnabled hplatform hhub
  rw [List.nil_append, hmade] at hrequests
  refine ⟨rfl, hrequests, ?_⟩
  intro heq
  have hentity := hub.requestOf_switchOrder_injective true
    (List.singleton_inj.mp (hrequests.symm.trans heq))
  exact absurd hentity (by decide)

end Backends

end HomeAutomation
