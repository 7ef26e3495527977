import HomeAutomation.Proofs.Backend.Exchange
import HomeAutomation.Proofs.Text.Percent
import Mathlib.Data.Finmap

/-!
# The hub as a store

A hub that keeps its configurations is a transport whose state shows a finite map from ids to
configurations. `KeepsConfigs` says how requests move that map: a configuration is written or
removed under the id that the last segment of the address stands for, and nothing else touches it.
The address of an id is read back as that id, so no two ids share one (`kept_write`,
`kept_remove`).
-/

namespace HomeAutomation

open Text

/-- Configurations under their ids. -/
abbrev ConfigStore := Finmap fun _ : String => Json

/-- Two splits of a list at the last place of a value begin with the same. -/
theorem append_cons_last_inj {α : Type} {c : α} {front back front' back' : List α}
    (hback : c ∉ back) (hback' : c ∉ back')
    (h : front ++ c :: back = front' ++ c :: back') : front = front' := by
  rcases List.append_eq_append_iff.mp h with ⟨gap, rfl, hgap⟩ | ⟨gap, rfl, hgap⟩
  · cases gap with
    | nil => rw [List.append_nil]
    | cons d gap =>
        obtain ⟨-, rfl⟩ := List.cons_eq_cons.mp hgap
        exact absurd List.mem_append_cons_self hback
  · cases gap with
    | nil => rw [List.append_nil]
    | cons d gap =>
        obtain ⟨-, rfl⟩ := List.cons_eq_cons.mp hgap
        exact absurd List.mem_append_cons_self hback'

namespace Hub

def configRoot : String := "/api/config/automation/config/"

/-- A segment of a path does not go on after the character. -/
def endsSegment (c : Char) : Bool :=
  c == '/' || c == '?' || c == '#'

/-- The segment that names a configuration in its address on the hub. -/
def configSegment? (hub : Hub) (address : String) : Option String :=
  let segment := dropStart (hub.url ++ configRoot) address
  if beginsWith (hub.url ++ configRoot) address ∧ segment ≠ "" ∧
      segment.toList.any endsSegment = false then some segment
  else none

theorem endsSegment_eq_false {c : Char} (h : Percent.isSegmentChar c = true) :
    endsSegment c = false := by
  by_contra hends
  simp only [Bool.not_eq_false, endsSegment, Bool.or_eq_true, beq_iff_eq] at hends
  rcases hends with (rfl | rfl) | rfl
  · exact absurd h (by decide)
  · exact absurd h (by decide)
  · exact absurd h (by decide)

theorem configPath_eq (id : String) : configPath id = configRoot ++ Percent.encode id := rfl

/-- The address of a configuration is read back as its id in percent encoding. -/
theorem configSegment?_configPath (hub : Hub) {id : String} (h : id ≠ "") :
    hub.configSegment? (hub.url ++ configPath id) = some (Percent.encode id) := by
  have hpath : hub.url ++ configPath id = hub.url ++ configRoot ++ Percent.encode id := by
    rw [configPath_eq, String.append_assoc]
  have hany : (Percent.encode id).toList.any endsSegment = false := by
    rw [List.any_eq_false]
    intro c hc
    rw [endsSegment_eq_false (Percent.isSegmentChar_of_mem_encode hc)]
    exact Bool.false_ne_true
  rw [configSegment?, hpath, dropStart_append, beginsWith_append]
  exact if_pos ⟨rfl, Percent.encode_ne_empty h, hany⟩

theorem configSegment?_service (hub : Hub) (service : String) :
    hub.configSegment? (hub.url ++ ("/api/services/automation/" ++ service)) = none := by
  rw [configSegment?, beginsWith_append_append]
  refine if_neg fun h => ?_
  obtain ⟨rest, hrest⟩ := beginsWith_iff.mp h.1
  have hfive := congrArg (fun s => s.drop 5 |>.head?) hrest
  simp [configRoot] at hfive

/-- Nothing is kept at the address where the platform takes new automations, however the addresses
of the two may overlap. -/
theorem configSegment?_platform (hub : Hub) (platform : Platform) :
    hub.configSegment? (platform.url ++ "/api/automations") = none := by
  rw [configSegment?]
  refine if_neg ?_
  rintro ⟨hbegins, -, hsegment⟩
  obtain ⟨rest, hrest⟩ := beginsWith_iff.mp hbegins
  have hwhole : platform.url.toList ++ "/api/automations".toList =
      hub.url.toList ++ configRoot.toList ++ rest := by
    simpa using hrest
  have hslash : '/' ∉ rest := by
    intro hmem
    have hends := List.any_eq_false.mp hsegment '/' (by
      rwa [dropStart, hrest, List.drop_left, String.toList_ofList])
    exact hends rfl
  -- Both addresses are split at their last slash. What stands before it ends in two ways.
  have hsplit : (platform.url.toList ++ "/api".toList) ++ '/' :: "automations".toList =
      (hub.url.toList ++ "/api/config/automation/config".toList) ++ '/' :: rest := by
    simpa [configRoot] using hwhole
  have hfront := append_cons_last_inj (by decide) hslash hsplit
  have hlast := congrArg List.getLast? hfront
  simp at hlast

end Hub

/-- Over the transport the hub keeps configurations; `kept` shows them in its state. -/
structure KeepsConfigs {σ : Type} (hub : Hub) (transport : σ → Request → Reply × σ)
    (kept : σ → ConfigStore) : Prop where
  /-- A configuration is written under the id in the address. -/
  kept_post : ∀ s request segment, request.method = "POST" →
    hub.configSegment? request.url = some segment →
    kept (transport s request).2 = (kept s).insert (Percent.decode segment) request.body
  /-- It is removed in the same way. -/
  kept_delete : ∀ s request segment, request.method = "DELETE" →
    hub.configSegment? request.url = some segment →
    kept (transport s request).2 = (kept s).erase (Percent.decode segment)
  /-- Both are answered well. -/
  answered : ∀ s request segment, request.method = "POST" ∨ request.method = "DELETE" →
    hub.configSegment? request.url = some segment →
    ∃ response : Response, (transport s request).1 = .ok response ∧
      200 ≤ response.status ∧ response.status < 300
  /-- Any other request changes nothing. -/
  kept_other : ∀ s request,
    (request.method = "POST" ∨ request.method = "DELETE" →
      hub.configSegment? request.url = none) →
    kept (transport s request).2 = kept s

namespace KeepsConfigs

variable {σ : Type} {hub : Hub} {transport : σ → Request → Reply × σ} {kept : σ → ConfigStore}

theorem kept_write (h : KeepsConfigs hub transport kept) (s : σ) {id : String} (hid : id ≠ "")
    (config : Json) :
    kept (transport s (hub.requestOf ⟨"POST", Hub.configPath id, config⟩)).2 =
      (kept s).insert id config := by
  have hpost := h.kept_post s (hub.requestOf ⟨"POST", Hub.configPath id, config⟩)
    (Percent.encode id) rfl (hub.configSegment?_configPath hid)
  rw [hpost, Percent.decode_encode]
  rfl

theorem kept_remove (h : KeepsConfigs hub transport kept) (s : σ) {id : String} (hid : id ≠ "") :
    kept (transport s (hub.requestOf ⟨"DELETE", Hub.configPath id, .null⟩)).2 =
      (kept s).erase id := by
  have hdelete := h.kept_delete s (hub.requestOf ⟨"DELETE", Hub.configPath id, .null⟩)
    (Percent.encode id) rfl (hub.configSegment?_configPath hid)
  rw [hdelete, Percent.decode_encode]

end KeepsConfigs

/-- A hub that keeps its configurations and knows nothing else. -/
def Hub.keeping (hub : Hub) (store : ConfigStore) (request : Request) : Reply × ConfigStore :=
  match hub.configSegment? request.url with
  | some segment =>
    if request.method = "POST" then
      (.ok ⟨200, ""⟩, store.insert (Percent.decode segment) request.body)
    else if request.method = "DELETE" then
      (.ok ⟨200, ""⟩, store.erase (Percent.decode segment))
    else (.ok ⟨405, ""⟩, store)
  | none => (.ok ⟨404, ""⟩, store)

theorem keepsConfigs_keeping (hub : Hub) :
    KeepsConfigs hub hub.keeping fun store => store where
  kept_post s request segment hmethod hsegment := by
    simp [Hub.keeping, hsegment, hmethod]
  kept_delete s request segment hmethod hsegment := by
    simp [Hub.keeping, hsegment, hmethod]
  answered s request segment hmethod hsegment := by
    refine ⟨⟨200, ""⟩, ?_, by decide, by decide⟩
    rcases hmethod with hpost | hdelete
    · simp [Hub.keeping, hsegment, hpost]
    · simp [Hub.keeping, hsegment, hdelete]
  kept_other s request hother := by
    unfold Hub.keeping
    cases hsegment : hub.configSegment? request.url with
    | none => rfl
    | some segment =>
        have hpost : request.method ≠ "POST" := fun h =>
          absurd (hsegment.symm.trans (hother (Or.inl h))) nofun
        have hdelete : request.method ≠ "DELETE" := fun h =>
          absurd (hsegment.symm.trans (hother (Or.inr h))) nofun
        simp [hpost, hdelete]

end HomeAutomation
