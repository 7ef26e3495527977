import HomeAutomation.Proofs.Backend.Trace

/-!
# Writing an automation once more

Creating a draft under an id and replacing the automation with that id by the draft are the same
write: both send the platform the same draft and configuration, and both leave the same request to
the hub (`CarrySameWrite`). A draft that is created at two times is written in the same way as well,
since a draft has a name and an id is never made from the time. So whoever creates a draft once more
sends the same requests again.
-/

namespace HomeAutomation

/-- Two runs write the same: the platform is sent the same contents, and the hub, where it comes to
that, gets the same requests. -/
structure CarrySameWrite (first again : List Request) : Prop where
  bodies_eq : (platformRequests first).map Request.body = (platformRequests again).map Request.body
  hubRequests_eq : hubRequests first ≠ [] → hubRequests again ≠ [] →
    hubRequests first = hubRequests again

namespace Change

variable {change other : Change} (backends : Backends) (access : Access) (w v : Circumstances)

theorem bodies_perform (h : change.IsSendable) :
    (platformRequests (w.requests (change.perform backends access))).map Request.body =
      if backends.platform.url = "" then [] else [change.platformOrder.body] := by
  rw [platformRequests_perform h]
  by_cases hurl : backends.platform.url = ""
  · rw [if_pos hurl, if_pos hurl, List.map_nil]
  · rw [if_neg hurl, if_neg hurl]
    rfl

/-- Changes whose orders have the same contents write the same. -/
theorem carrySameWrite_perform (h : change.IsSendable) (hother : other.IsSendable)
    (hbody : change.platformOrder.body = other.platformOrder.body)
    (horder : change.hubOrder = other.hubOrder) :
    CarrySameWrite (w.requests (change.perform backends access))
      (v.requests (other.perform backends access)) where
  bodies_eq := by
    rw [bodies_perform backends access w h, bodies_perform backends access v hother, hbody]
  hubRequests_eq := by
    intro hfirst hagain
    rw [hubRequests_perform h backends access w hfirst,
      hubRequests_perform hother backends access v hagain, horder]

theorem hubOrder_atTime (change : Change) (clock : Int) :
    (change.atTime clock).hubOrder = change.hubOrder := by
  cases change with
  | create before draft =>
      rw [atTime, hubOrder, hubOrder, writeOrder_compile, writeOrder_compile]
  | update before id draft =>
      rw [atTime, hubOrder, hubOrder, writeOrder_compile, writeOrder_compile]
  | delete id => rfl
  | setEnabled id enabled => rfl

end Change

theorem configIdAt_compile (draft : Draft) (seconds : Number) :
    configIdAt draft.compile.toFields seconds = .ok draft.key := by
  rw [configIdAt, id_orElse_alias_compile, draft.isVoid_key, configId_compile]
  rfl

/-- Creating an accepted draft under an id and replacing under that id write the same, at any time
and whatever the answers are. So do two creations of one accepted draft, with or without an id: the
operation does not depend on the time. -/
theorem create_withId_writes_as_update {draft : Draft} (h : draft.IsAccepted)
    (backends : Backends) (access : Access) :
    (∀ (id : String) (w v : Circumstances),
      let created := w.requests (backends.create access w.clock (draft.withId id))
      let updated := v.requests (backends.update access v.clock id draft)
      CarrySameWrite created updated ∧
        (platformRequests created).map Request.body =
          if backends.platform.url = "" then []
          else [Backends.payload (draft.withId id) (draft.withId id).compile]) ∧
    (∀ w v : Circumstances,
      let first := w.requests (backends.create access w.clock draft)
      let again := v.requests (backends.create access v.clock draft)
      CarrySameWrite first again ∧ platformRequests first = platformRequests again) ∧
    (∀ clock other : Int,
      backends.create access clock draft = backends.create access other draft) ∧
    ∀ seconds : Number, configIdAt draft.compile.toFields seconds = .ok draft.key := by
  have hcreate (clock : Int) : (Change.create clock draft).IsSendable :=
    (Change.isSendable_iff rfl).mpr h
  refine ⟨?_, ?_, ?_, configIdAt_compile draft⟩
  · intro id w v
    have hcreated : (Change.create w.clock (draft.withId id)).IsSendable :=
      (Change.isSendable_iff rfl).mpr (h.withId id)
    have hupdated : (Change.update v.clock id draft).IsSendable :=
      (Change.isSendable_iff rfl).mpr h
    have horder : (Change.create w.clock (draft.withId id)).hubOrder =
        (Change.update v.clock id draft).hubOrder := by
      rw [← Change.hubOrder_atTime (.create w.clock (draft.withId id)) v.clock]
      rfl
    exact ⟨Change.carrySameWrite_perform backends access w v hcreated hupdated rfl horder,
      Change.bodies_perform backends access w hcreated⟩
  · intro w v
    have horder : (Change.create w.clock draft).hubOrder = (Change.create v.clock draft).hubOrder :=
      (Change.hubOrder_atTime (.create w.clock draft) v.clock).symm
    have hrequests : platformRequests (w.requests (backends.create access w.clock draft)) =
        platformRequests (v.requests (backends.create access v.clock draft)) :=
      (Change.platformRequests_perform (hcreate w.clock) backends access w).trans
        (Change.platformRequests_perform (hcreate v.clock) backends access v).symm
    exact ⟨Change.carrySameWrite_perform backends access w v (hcreate w.clock) (hcreate v.clock)
      rfl horder, hrequests⟩
  · intro clock other
    exact Change.perform_atTime (.create other draft) clock backends access

/-- The platform is out of order at one time and out of reach on the next day. Both times the hub is
asked to write the evening lights, and in the same way. -/
theorem create_withId_writes_as_update_eveningLights :
    let backends : Backends := ⟨.ofUrl (some "https://platform.example") (.int 10), .int 10⟩
    let access : Access := ⟨some ⟨some "http://hub:8123/", none, "token"⟩, .home⟩
    let w : Circumstances := ⟨Nat, 0, fun n _ => (.ok ⟨500, ""⟩, n + 1), 0⟩
    let v : Circumstances := ⟨Nat, 86400000, fun n _ => (.error ⟨.timedOut, "late"⟩, n + 1), 5⟩
    let created := w.requests (backends.create access w.clock (Draft.eveningLights.withId "salon"))
    let updated := v.requests (backends.update access v.clock "salon" .eveningLights)
    Draft.eveningLights.IsAccepted ∧ hubRequests created ≠ [] ∧ hubRequests updated ≠ [] ∧
      hubRequests created = hubRequests updated ∧
      (platformRequests created).map Request.body =
        (platformRequests updated).map Request.body := by
  intro backends access w v created updated
  have haccepted := Draft.eveningLights_isAccepted
  have hhub : ∃ hub, backends.hub? access = some hub :=
    ⟨⟨"http://hub:8123", "token", .int 10⟩, by decide⟩
  have hcreate : (Change.create 0 (Draft.eveningLights.withId "salon")).IsSendable :=
    (Change.isSendable_iff rfl).mpr (haccepted.withId "salon")
  have hupdate : (Change.update 86400000 "salon" Draft.eveningLights).IsSendable :=
    (Change.isSendable_iff rfl).mpr haccepted
  have hcreated : hubRequests created ≠ [] :=
    (Change.hubRequests_perform_ne_nil_iff hcreate backends access w).mpr ⟨⟨_, rfl⟩, hhub⟩
  have hupdated : hubRequests updated ≠ [] :=
    (Change.hubRequests_perform_ne_nil_iff hupdate backends access v).mpr ⟨⟨_, rfl⟩, hhub⟩
  obtain ⟨hsame, -⟩ := (create_withId_writes_as_update Draft.eveningLights_isAccepted backends
    access).1 "salon" w v
  exact ⟨Draft.eveningLights_isAccepted, hcreated, hupdated,
    hsame.hubRequests_eq hcreated hupdated, hsame.bodies_eq⟩

end HomeAutomation
