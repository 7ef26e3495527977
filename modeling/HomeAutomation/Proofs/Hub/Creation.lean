import HomeAutomation.Proofs.Backend.Answer
import HomeAutomation.Proofs.Hub.Refinement

/-!
# New automations on the hub

A draft without an id is kept on the hub under its name, also when the platform has an address but
fails. Creating writes without a look at what is there: of several drafts with one name the hub
keeps the one created last, and each of them was reported as done (`creations_keep_last`). Drafts
with different names never meet.
-/

namespace HomeAutomation

open Text

/-- What the hub keeps of the draft under an id. -/
def Draft.entryAt (draft : Draft) (id : String) : Json :=
  .obj (draft.compile.toFields.insert "id" (.str id))

/-- The draft is accepted and has no id. -/
structure Draft.IsNew (draft : Draft) : Prop where
  isAccepted : draft.IsAccepted
  id_eq_none : nonEmpty? draft.id = none

theorem Draft.IsNew.key_eq {draft : Draft} (h : draft.IsNew) : draft.key = draft.title.val := by
  rw [key, h.id_eq_none, Option.getD_none]

/-- The draft that comes last among those with the name. -/
def lastNamed (name : String) (drafts : List Draft) : Option Draft :=
  (drafts.filter fun draft => draft.title.val = name).getLast?

theorem lastNamed_append (name : String) (earlier later : List Draft) :
    lastNamed name (earlier ++ later) = (lastNamed name later).or (lastNamed name earlier) := by
  rw [lastNamed, List.filter_append, List.getLast?_append]
  rfl

theorem lastNamed_cons_self (draft : Draft) (later : List Draft) :
    lastNamed draft.title.val (draft :: later) =
      (lastNamed draft.title.val later).or (some draft) := by
  rw [← List.singleton_append, lastNamed_append]
  simp [lastNamed]

theorem lastNamed_cons_of_ne {name : String} {draft : Draft} (h : name ≠ draft.title.val)
    (later : List Draft) : lastNamed name (draft :: later) = lastNamed name later := by
  simp [lastNamed, h.symm]

/-- The platform fails at whatever it is asked, in a way that it can tell. -/
def Platform.Fails {σ : Type} (platform : Platform) (transport : σ → Request → Reply × σ) : Prop :=
  platform.url ≠ "" → ∀ s order, ∃ e,
    Platform.conclude (transport s (platform.requestOf order)).1 = .error (.told e)

/-- Drafts to be created one after the other, each at a time in milliseconds. -/
abbrev Creations := List (Int × Draft)

namespace Creations

def changes (creations : Creations) : List Change :=
  creations.map fun (clock, draft) => .create clock draft

def drafts (creations : Creations) : List Draft :=
  creations.map Prod.snd

theorem drafts_cons (clock : Int) (draft : Draft) (rest : Creations) :
    drafts ((clock, draft) :: rest) = draft :: drafts rest := rfl

theorem drafts_append (before after : Creations) :
    drafts (before ++ after) = drafts before ++ drafts after := List.map_append

end Creations

section Run

variable {σ : Type} {hub : Hub} {transport : σ → Request → Reply × σ} {kept : σ → ConfigStore}
  {backends : Backends} {access : Access}

namespace KeepsConfigs

/-- A platform that fails to create an automation leaves the configurations of the hub alone. -/
theorem firstTry_create_of_fails (h : KeepsConfigs hub transport kept)
    (hfails : backends.platform.Fails transport) (clock : Int) (draft : Draft) (s : σ) :
    ∃ e asked t,
      ((Change.create clock draft).plan.primary backends.platform).run transport s =
        (.error (.told e), asked, t) ∧ kept t = kept s := by
  by_cases hurl : backends.platform.url = ""
  · exact ⟨_, _, _, Plan.run_primary_of_no_url _ backends transport s hurl, rfl⟩
  · obtain ⟨e, he⟩ := hfails hurl s (Change.create clock draft).platformOrder
    refine ⟨e, _, _, Prod.ext ?_ rfl, ?_⟩
    · rw [Plan.run_primary_of_url _ backends transport s hurl]
      simp only [Change.plan, he]
      rfl
    · rw [Plan.run_primary_of_url _ backends transport s hurl]
      exact h.kept_other s _ fun _ => hub.configSegment?_platform backends.platform

theorem takes_write (h : KeepsConfigs hub transport kept) (s : σ) {id : String} (hid : id ≠ "")
    (config : Json) :
    ∃ response,
      (transport s (hub.requestOf ⟨"POST", Hub.configPath id, config⟩)).1 = .ok response ∧
        Backend.hub.Takes response := by
  obtain ⟨response, hresponse, hlow, hhigh⟩ := h.answered s
    (hub.requestOf ⟨"POST", Hub.configPath id, config⟩) _ (Or.inl rfl)
    (hub.configSegment?_configPath hid)
  refine ⟨response, hresponse, ?_⟩
  rintro ⟨hfailure, -⟩
  omega

/-- A new draft is created on the hub under its name. -/
theorem run_create_of_fails (h : KeepsConfigs hub transport kept)
    (hfails : backends.platform.Fails transport) (hhub : backends.hub? access = some hub)
    (clock : Int) {draft : Draft} (hnew : draft.IsNew) (s : σ) :
    let run := ((Change.create clock draft).perform backends access).run transport s
    run.1 = .ok (.accepted .hub) ∧
      kept run.2.2 = (kept s).insert draft.title.val (draft.entryAt draft.title.val) := by
  intro run
  have hsend : (Change.create clock draft).IsSendable :=
    (Change.isSendable_iff rfl).mpr hnew.isAccepted
  have horder : (Change.create clock draft).plan.hubOrder =
      ⟨"POST", Hub.configPath draft.title.val, draft.entryAt draft.title.val⟩ := by
    rw [← hnew.key_eq]
    exact Change.writeOrder_compile draft clock
  obtain ⟨e, asked, t, hfirst, hkept⟩ := h.firstTry_create_of_fails hfails clock draft s
  have hrun := (Change.create clock draft).plan.run_carriedOut_of_hub backends access transport
    hfirst hhub
  rw [← Change.perform_eq_carriedOut backends access hsend, horder] at hrun
  have hname : draft.title.val ≠ "" := draft.title.property
  constructor
  · have hdone := (Change.ofHub_eq_ok_iff (Change.create clock draft) hub).mpr
      (h.takes_write t hname (draft.entryAt draft.title.val))
    simp only [run, hrun, hdone]
    rfl
  · simp only [run, hrun]
    rw [← hkept]
    exact h.kept_write t hname _

/-- A draft that is created after another one of its name displaces it, unless both have the same
configuration. -/
theorem run_create_displaces (h : KeepsConfigs hub transport kept)
    (hfails : backends.platform.Fails transport) (hhub : backends.hub? access = some hub)
    (clock clock' : Int) {earlier later : Draft} (hearlier : earlier.IsNew) (hlater : later.IsNew)
    (hname : later.title = earlier.title) (hne : ∀ id, later.entryAt id ≠ earlier.entryAt id)
    {s : σ} (hs : ∀ id, (kept s).lookup id ≠ some (earlier.entryAt id)) :
    let first := ((Change.create clock earlier).perform backends access).run transport s
    let second := ((Change.create clock' later).perform backends access).run transport first.2.2
    first.1 = .ok (.accepted .hub) ∧ second.1 = .ok (.accepted .hub) ∧
      (kept first.2.2).lookup earlier.title.val = some (earlier.entryAt earlier.title.val) ∧
      ∀ id, (kept second.2.2).lookup id ≠ some (earlier.entryAt id) := by
  intro first second
  obtain ⟨hfirst, hstore⟩ := h.run_create_of_fails hfails hhub clock hearlier s
  obtain ⟨hsecond, hlast⟩ := h.run_create_of_fails hfails hhub clock' hlater first.2.2
  refine ⟨hfirst, hsecond, ?_, ?_⟩
  · rw [hstore]
    exact Finmap.lookup_insert _
  · intro id hid
    rw [hlast, hstore, hname] at hid
    by_cases hid' : id = earlier.title.val
    · subst hid'
      have hentry := (Finmap.lookup_insert _).symm.trans hid
      exact hne _ (Option.some.inj hentry)
    · rw [Finmap.lookup_insert_of_ne _ hid', Finmap.lookup_insert_of_ne _ hid'] at hid
      exact hs id hid

/-- After new drafts were created, an id holds what the last draft of that name left there. -/
theorem lookup_creations (h : KeepsConfigs hub transport kept)
    (hfails : backends.platform.Fails transport) (hhub : backends.hub? access = some hub)
    (creations : Creations) (hnew : ∀ draft ∈ creations.drafts, draft.IsNew) (s : σ)
    (id : String) :
    (kept (performAll backends access transport creations.changes s)).lookup id =
      ((lastNamed id creations.drafts).map fun draft => draft.entryAt id).or
        ((kept s).lookup id) := by
  induction creations generalizing s with
  | nil => rfl
  | cons first rest ih =>
      obtain ⟨clock, draft⟩ := first
      obtain ⟨hdraft, hrest⟩ := List.forall_mem_cons.mp hnew
      obtain ⟨-, hkept⟩ := h.run_create_of_fails hfails hhub clock hdraft s
      refine (ih hrest _).trans ?_
      rw [hkept, Creations.drafts_cons]
      by_cases hid : id = draft.title.val
      · rw [hid, Finmap.lookup_insert, lastNamed_cons_self, Option.map_or, Option.or_assoc]
        rfl
      · rw [Finmap.lookup_insert_of_ne _ hid, lastNamed_cons_of_ne hid]

end KeepsConfigs

/-- While the platform fails, every new draft is created on the hub and reported as done. What is
kept under other names stays as it is, so a draft has its entry in the end unless a later draft of
the same name has left another one there. -/
theorem creations_keep_last (h : KeepsConfigs hub transport kept)
    (hfails : backends.platform.Fails transport) (hhub : backends.hub? access = some hub)
    (creations : Creations) (hnew : ∀ draft ∈ creations.drafts, draft.IsNew) (s : σ) :
    let stateAfter (creations : Creations) :=
      performAll backends access transport creations.changes s
    (∀ before clock draft after, creations = before ++ (clock, draft) :: after →
      let run := ((Change.create clock draft).perform backends access).run transport
        (stateAfter before)
      run.1 = .ok (.accepted .hub) ∧
      (∀ id, id ≠ draft.title.val →
        (kept run.2.2).lookup id = (kept (stateAfter before)).lookup id) ∧
      ((kept (stateAfter creations)).lookup draft.title.val =
          some (draft.entryAt draft.title.val) ↔
        ∀ later, lastNamed draft.title.val (Creations.drafts after) = some later →
          later.entryAt draft.title.val = draft.entryAt draft.title.val)) ∧
    ∀ id, (kept (stateAfter creations)).lookup id =
      ((lastNamed id creations.drafts).map fun draft => draft.entryAt id).or
        ((kept s).lookup id) := by
  intro stateAfter
  have hlookup := h.lookup_creations hfails hhub creations hnew s
  refine ⟨?_, hlookup⟩
  rintro before clock draft after rfl
  have hdraft : draft.IsNew := hnew draft (by simp [Creations.drafts])
  obtain ⟨hdone, hkept⟩ := h.run_create_of_fails hfails hhub clock hdraft (stateAfter before)
  refine ⟨hdone, ?_, ?_⟩
  · intro id hid
    rw [hkept, Finmap.lookup_insert_of_ne _ hid]
  · rw [hlookup, Creations.drafts_append, Creations.drafts_cons, lastNamed_append,
      lastNamed_cons_self]
    cases hafter : lastNamed draft.title.val (Creations.drafts after) with
    | none => simp
    | some later => simp

end Run

/-- Lights that go off at eleven, under the name of those that go on at seven. -/
def Draft.lateLights : Draft :=
  { Draft.eveningLights with
    triggers := [.time "23:00" none]
    actions := [⟨"light.living_room", "light/turn_off", none⟩] }

namespace Draft

theorem eveningLights_isNew : eveningLights.IsNew :=
  ⟨eveningLights_isAccepted, rfl⟩

theorem lateLights_isNew : lateLights.IsNew :=
  ⟨⟨_, checked_eq_ok_iff.mpr ⟨by rfl, rfl⟩⟩, rfl⟩

theorem entryAt_lateLights_ne (id : String) : lateLights.entryAt id ≠ eveningLights.entryAt id := by
  intro h
  have htriggers : some (Json.arr [.obj [("platform", .str "time"), ("at", .str "23:00")]]) =
      some (.arr [.obj [("platform", .str "time"), ("at", .str "19:00")]]) :=
    congrArg (fun fields : Json.Fields => fields.get? "trigger") (Json.obj.inj h)
  simp at htriggers

end Draft

section EveningLights

theorem fails_keeping (timeout : Number) (token : String) :
    (Platform.ofUrl (some "https://platform.example") timeout).Fails
      (Hub.keeping ⟨"http://hub:8123", token, timeout⟩) := by
  intro _ store order
  refine ⟨.declined 404 "", ?_⟩
  have hsegment : Hub.configSegment? ⟨"http://hub:8123", token, timeout⟩
      ((Platform.ofUrl (some "https://platform.example") timeout).requestOf order).url = none := by
    refine if_neg fun h => ?_
    have hurl : (Platform.ofUrl (some "https://platform.example") timeout).url =
        "https://platform.example" := rfl
    obtain ⟨rest, hrest⟩ := beginsWith_iff.mp h.1
    have hfive := congrArg (fun s => s.drop 4 |>.head?) hrest
    simp [Platform.requestOf, hurl] at hfive
  rw [Hub.keeping, hsegment]
  rfl

/-- The lights that go on are created, and then those that go off. Only the latter are kept. -/
theorem creations_keep_last_lateLights :
    let backends : Backends := ⟨.ofUrl (some "https://platform.example") (.int 10), .int 10⟩
    let access : Access := ⟨some ⟨some "http://hub:8123/", none, "token"⟩, .home⟩
    let hub : Hub := ⟨"http://hub:8123", "token", .int 10⟩
    let creations : Creations := [(0, .eveningLights), (60000, .lateLights)]
    (performAll backends access hub.keeping creations.changes ∅).lookup "Evening lights" =
      some (Draft.lateLights.entryAt "Evening lights") := by
  intro backends access hub creations
  have hhub : backends.hub? access = some hub := by decide
  have hnew : ∀ draft ∈ creations.drafts, draft.IsNew := by
    simp [creations, Creations.drafts, Draft.eveningLights_isNew, Draft.lateLights_isNew]
  have hlookup := (creations_keep_last (keepsConfigs_keeping hub) (fails_keeping (.int 10) "token")
    hhub creations hnew ∅).2 "Evening lights"
  have hlast : lastNamed "Evening lights" creations.drafts = some .lateLights := by decide
  rw [hlast] at hlookup
  exact hlookup

/-- Both drafts are new and different, and both are reported as done by the hub, yet in the end the
first one is kept under no id. -/
theorem lateLights_displace_eveningLights :
    let backends : Backends := ⟨.ofUrl (some "https://platform.example") (.int 10), .int 10⟩
    let access : Access := ⟨some ⟨some "http://hub:8123/", none, "token"⟩, .home⟩
    let hub : Hub := ⟨"http://hub:8123", "token", .int 10⟩
    let first := ((Change.create 0 .eveningLights).perform backends access).run hub.keeping ∅
    let second := ((Change.create 60000 .lateLights).perform backends access).run hub.keeping
      first.2.2
    (KeepsConfigs hub hub.keeping (fun store => store) ∧ backends.platform.Fails hub.keeping ∧
      Draft.eveningLights.IsNew ∧ Draft.lateLights.IsNew ∧
      Draft.lateLights ≠ Draft.eveningLights) ∧
    first.1 = .ok (.accepted .hub) ∧ second.1 = .ok (.accepted .hub) ∧
      first.2.2.lookup "Evening lights" = some (Draft.eveningLights.entryAt "Evening lights") ∧
      ∀ id, second.2.2.lookup id ≠ some (Draft.eveningLights.entryAt id) := by
  intro backends access hub
  have hkeeps := keepsConfigs_keeping hub
  have hfails : backends.platform.Fails hub.keeping := fails_keeping (.int 10) "token"
  have hhub : backends.hub? access = some hub := by decide
  have hempty (id : String) :
      (∅ : ConfigStore).lookup id ≠ some (Draft.eveningLights.entryAt id) := nofun
  have hdisplaced := hkeeps.run_create_displaces hfails hhub 0 60000 Draft.eveningLights_isNew
    Draft.lateLights_isNew rfl Draft.entryAt_lateLights_ne hempty
  exact ⟨⟨hkeeps, hfails, Draft.eveningLights_isNew, Draft.lateLights_isNew, by decide⟩, hdisplaced⟩

end EveningLights

end HomeAutomation
