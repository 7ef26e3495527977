import HomeAutomation.Proofs.Backend.Answer
import HomeAutomation.Proofs.Hub.Addressing
import HomeAutomation.Proofs.Text.Word
import HomeAutomation.Proofs.Validation.Rereading
import Mathlib

/-!
# Lists read entry by entry

What the backends list comes from outside, and any entry of it may be anything. `Lists` says what an
item of the hub's list has to do with the state it was made from, and `ListsItem` says the same of
the platform's list. Entries that stand for no automation are passed over and all others are listed
once, in their order (`forall₂_ofStates`, `forall₂_ofItems`), so no entry has a part in what is made
of another. A list is always made of a good answer, whatever is in the body
(`lists_entry_by_entry`).
-/

namespace HomeAutomation

open Text

namespace Json

theorem toString_int_ne_empty (n : Int) : toString n ≠ "" := by
  intro h
  have hnil : (toString n).toList = [] := by rw [h]; rfl
  rw [toList_toString] at hnil
  split at hnil
  · exact Nat.toDigits_ne_nil hnil
  · cases hnil

theorem write_ne_empty (x : Float) : DoubleLayout.plain.write x ≠ "" := by
  intro h
  rcases exists_mem_write x with ⟨c, -, hmem⟩ | htext
  · rw [h] at hmem
    cases hmem
  · rw [h] at htext
    exact absurd htext (by decide)

theorem display_eq_empty_iff {v : Json} : v.display = "" ↔ v = .str "" := by
  cases v with
  | null => simp [display, inspect]
  | bool b => cases b <;> simp [display, inspect]
  | int n => simpa [display, inspect] using toString_int_ne_empty n
  | double x => simpa [display, inspect] using write_ne_empty x
  | str s => simp [display]
  | arr items => simp [display, inspect]
  | obj fields => simp [display, inspect]

theorem display_orElse_ne_empty (v : Json) {w : Json} (h : w ≠ .str "") :
    (v.orElse w).display ≠ "" := by
  rw [ne_eq, display_eq_empty_iff, orElse]
  split
  case isTrue => exact h
  case isFalse hvoid =>
    rintro rfl
    exact hvoid rfl

end Json

/-- When a function gives a result exactly for the elements of a class, its results are those of the
class, in order. -/
theorem forall₂_filter_filterMap {α β : Type} {f : α → Option β} {p : α → Bool} {R : α → β → Prop}
    (hsome : ∀ a, p a = true → ∃ b, f a = some b ∧ R a b) (hnone : ∀ a, p a = false → f a = none)
    (entries : List α) : List.Forall₂ R (entries.filter p) (entries.filterMap f) := by
  induction entries with
  | nil => exact .nil
  | cons a rest ih =>
      cases h : p a with
      | true =>
          obtain ⟨b, hb, hr⟩ := hsome a h
          rw [List.filter_cons_of_pos h, List.filterMap_cons_some hb]
          exact .cons hr ih
      | false =>
          rw [List.filter_cons_of_neg (by simp [h]), List.filterMap_cons_none (hnone a h)]
          exact ih

namespace ListedAutomation

section State

/-- The state is that of an automation: the entity is named, and its name has the prefix. -/
def isAutomationState (state : Json) : Bool :=
  (entityName? state).any (beginsWith automationPrefix)

/-- What stands under `state`, as a text; nothing if it is void. -/
def stateText (state : Json) : String :=
  let v := ((state.fields?).getD []).field "state"
  if v.isVoid then "" else v.display

/-- The item says what is said of an automation in the list of states. -/
structure Lists (state : Json) (item : ListedAutomation) : Prop where
  id_eq : ∃ entity, entityName? state = some entity ∧ item.id = listedId entity (givenId state)
  title_ne_empty : item.title ≠ ""
  enabled_eq_false_iff : item.enabled = false ↔ lower (stateText state) = "off"
  read_eq : read item.toJson = .valid item

theorem isAutomationState_iff {state : Json} : isAutomationState state = true ↔
    ∃ (fields : Json.Fields) (entity : String), state = .obj fields ∧
      fields.field "entity_id" = .str entity ∧ beginsWith automationPrefix entity = true := by
  unfold isAutomationState entityName?
  cases state with
  | obj fields =>
      cases hentity : Json.Fields.field fields "entity_id" with
      | str entity => simp [Json.fields?, hentity, Json.text?]
      | _ => simp [Json.fields?, hentity, Json.text?]
  | _ => simp [Json.fields?]

theorem ofState?_eq_none {state : Json} (h : isAutomationState state = false) :
    ofState? state = none := by
  cases hitem : ofState? state with
  | none => rfl
  | some item =>
      obtain ⟨entity, hentity, hprefix, -⟩ := ofState?_eq_some hitem
      simp [isAutomationState, hentity, hprefix] at h

/-- An automation is listed by its state, whatever else the state holds. -/
theorem exists_ofState?_eq_some {state : Json} (h : isAutomationState state = true) :
    ∃ item, ofState? state = some item ∧ Lists state item := by
  obtain ⟨fields, entity, rfl, hentity, hprefix⟩ := isAutomationState_iff.mp h
  have hne : Json.str entity ≠ .str "" := by
    rintro ⟨rfl⟩
    exact absurd hprefix (by decide)
  obtain ⟨item, hitem, attrs, htitle, henabled⟩ : ∃ item, ofState? (.obj fields) = some item ∧
      ∃ attrs, item.title = textOr attrs "friendly_name" entity ∧
        item.enabled = (lower (textOr fields "state" "") != "off") := by
    simp only [ofState?, Json.fields?, hentity, Json.text?, Option.bind_eq_bind, Option.bind_some,
      hprefix, if_true]
    exact ⟨_, rfl, _, rfl, rfl⟩
  refine ⟨item, hitem, ?_, ?_, ?_, read_toJson item⟩
  · obtain ⟨other, hother, -, hid⟩ := ofState?_eq_some hitem
    exact ⟨other, hother, hid⟩
  · rw [htitle]
    exact Json.display_orElse_ne_empty _ hne
  · have htext : textOr fields "state" "" = stateText (.obj fields) := by
      rw [textOr, stateText, Json.orElse]
      exact apply_ite Json.display _ _ _
    rw [henabled, htext, bne_eq_false_iff_eq]

/-- The hub's list has one item for each state of an automation, in order. -/
theorem forall₂_ofStates (states : List Json) :
    List.Forall₂ Lists (states.filter isAutomationState) (ofStates (.arr states)) :=
  forall₂_filter_filterMap (fun _ => exists_ofState?_eq_some) (fun _ => ofState?_eq_none) states

theorem ofStates_append (states more : List Json) :
    ofStates (.arr (states ++ more)) = ofStates (.arr states) ++ ofStates (.arr more) :=
  List.filterMap_append

theorem ofStates_of_items?_eq_none {body : Json} (h : body.items? = none) : ofStates body = [] := by
  rw [ofStates, h]
  rfl

end State

section Item

/-- The item says what is said in an entry of the platform's list. -/
structure ListsItem (entry : Json) (item : ListedAutomation) : Prop where
  ofItem_eq : ∃ fields, entry = .obj fields ∧ item = ofItem fields
  title_ne_empty : item.title ≠ ""
  read_eq : read item.toJson = .valid item

theorem listsItem_ofItem (fields : Json.Fields) : ListsItem (.obj fields) (ofItem fields) where
  ofItem_eq := ⟨fields, rfl, rfl⟩
  title_ne_empty := by
    have hother : Json.str "Automation" ≠ .str "" := by simp
    have hname := Json.display_orElse_ne_empty (fields.field "name") hother
    rw [ne_eq, Json.display_eq_empty_iff] at hname
    exact Json.display_orElse_ne_empty (fields.field "alias") hname
  read_eq := read_toJson _

theorem forall₂_ofItems (entries : List Json) :
    List.Forall₂ ListsItem (entries.filter fun entry => entry.fields?.isSome)
      (ofItems (.arr entries)) := by
  refine forall₂_filter_filterMap (fun entry hentry => ?_) (fun entry hentry => ?_) entries
  · cases entry with
    | obj fields => exact ⟨ofItem fields, rfl, listsItem_ofItem fields⟩
    | _ => cases hentry
  · rw [Option.isSome_eq_false_iff, Option.isNone_iff_eq_none] at hentry
    rw [hentry]
    rfl

end Item

end ListedAutomation

/-- A good answer with this value in its body. -/
def Response.Holds (r : Response) (body : Json) : Prop :=
  ¬ r.IsFailure ∧ r.value? = some body

section Run

variable {σ : Type} {transport : σ → Request → Reply × σ} {s : σ} {r : Response} {body : Json}

theorem Hub.run_list {hub : Hub}
    (hreply : (transport s (hub.requestOf Backends.listing.hubOrder)).1 = .ok r)
    (hbody : r.Holds body) :
    (hub.list.run transport s).1 = .ok (ListedAutomation.ofStates body) := by
  obtain ⟨hgood, hvalue⟩ := hbody
  have hconclude : hub.conclude (.ok r) = .ok body := by
    rw [conclude, if_pos (Response.isOk_iff.mpr hgood), hvalue]
    rfl
  have hexchange : hub.list = .exchange (hub.requestOf Backends.listing.hubOrder)
      (Backends.listing.ofHub hub) := Backends.listing.fallback_eq hub
  rw [hexchange, Dialogue.run_exchange, hreply]
  change (hub.conclude (.ok r)).map _ = _
  rw [hconclude]
  cases body <;> rfl

theorem Platform.run_list {platform : Platform} {entries : List Json} (hurl : platform.url ≠ "")
    (hreply : (transport s (platform.requestOf Backends.listing.platformOrder)).1 = .ok r)
    (hbody : r.Holds (.arr entries)) :
    (platform.list.run transport s).1 = .ok (ListedAutomation.ofItems (.arr entries)) := by
  obtain ⟨hgood, hvalue⟩ := hbody
  have hconclude : conclude (.ok r) = .ok (.arr entries) := by
    rw [conclude, check, if_pos (Response.isOk_iff.mpr hgood), hvalue]
    rfl
  have htried : platform.list = platform.tried Backends.listing.platformOrder
      Backends.listing.ofPlatform := Backends.listing.primary_eq platform
  rw [htried, run_tried, if_neg hurl, hreply]
  change (conclude (.ok r)).map _ = _
  rw [hconclude]
  rfl

end Run

open ListedAutomation in
/-- Both lists are made of good answers entry by entry: each entry that stands for an automation is
listed once and in its place, and no other entry leaves a trace. -/
theorem lists_entry_by_entry {σ : Type} (transport : σ → Request → Reply × σ) (s : σ) :
    (∀ (hub : Hub) r body, (transport s (hub.requestOf Backends.listing.hubOrder)).1 = .ok r →
      r.Holds body → (hub.list.run transport s).1 = .ok (ofStates body)) ∧
    (∀ body : Json, body.items? = none → ofStates body = []) ∧
    (∀ states, List.Forall₂ Lists (states.filter isAutomationState) (ofStates (.arr states))) ∧
    (∀ states more, ofStates (.arr (states ++ more)) =
      ofStates (.arr states) ++ ofStates (.arr more)) ∧
    (∀ before state after, isAutomationState state = false →
      ofStates (.arr (before ++ state :: after)) = ofStates (.arr (before ++ after))) ∧
    (∀ (platform : Platform) r entries, platform.url ≠ "" →
      (transport s (platform.requestOf Backends.listing.platformOrder)).1 = .ok r →
      r.Holds (.arr entries) →
      (platform.list.run transport s).1 = .ok (ofItems (.arr entries))) ∧
    ∀ entries, List.Forall₂ ListsItem (entries.filter fun entry => entry.fields?.isSome)
      (ofItems (.arr entries)) := by
  refine ⟨fun hub r body => Hub.run_list, fun body => ofStates_of_items?_eq_none,
    forall₂_ofStates, ofStates_append, fun before state after h => ?_,
    fun platform r entries => Platform.run_list, forall₂_ofItems⟩
  have hstate : ofStates (.arr (state :: after)) = ofStates (.arr after) :=
    List.filterMap_cons_none (ofState?_eq_none h)
  rw [ofStates_append, ofStates_append, hstate]

open ListedAutomation in
theorem lists_entry_by_entry_porch :
    let porch : Json := .obj [("entity_id", .str "automation.porch"), ("state", .str "OFF")]
    let r : Response :=
      ⟨200, "[null, \x7b\"entity_id\": \"automation.porch\", \"state\": \"OFF\"\x7d]"⟩
    let transport := fun (n : Nat) (_ : Request) => ((.ok r : Reply), n)
    let hub : Hub := ⟨"http://hub:8123", "token", .int 10⟩
    let platform : Platform := .ofUrl (some "https://platform.example") (.int 10)
    r.Holds (.arr [.null, porch]) ∧
      (∃ item, (hub.list.run transport 0).1 = .ok [item] ∧ Lists porch item ∧
        item.enabled = false) ∧
      (∃ item, platform.url ≠ "" ∧ (platform.list.run transport 0).1 = .ok [item] ∧
        ListsItem porch item) ∧
      Json.items? .null = none ∧ ofStates .null = [] := by
  intro porch r transport hub platform
  obtain ⟨hhub, hnone, hstates, -, hskip, hplatform, hitems⟩ := lists_entry_by_entry transport 0
  have hvalue : Response.value?
      ⟨200, "[null, \x7b\"entity_id\": \"automation.porch\", \"state\": \"OFF\"\x7d]"⟩ =
        some (.arr [.null, porch]) := by
    cbv
  have hgood : ¬ r.IsFailure := by
    rintro ⟨hle, -⟩
    exact absurd hle (by decide)
  have hbody : r.Holds (.arr [.null, porch]) := ⟨hgood, hvalue⟩
  have hskipped : ofStates (.arr [.null, porch]) = ofStates (.arr [porch]) :=
    hskip [] .null [porch] rfl
  have hlisted : List.Forall₂ Lists [porch] (ofStates (.arr [porch])) := hstates [porch]
  obtain ⟨item, _, hitem, hrest, heq⟩ := List.forall₂_cons_left_iff.mp hlisted
  obtain rfl := List.forall₂_nil_left_iff.mp hrest
  have hoff : lower (stateText porch) = "off" := by decide
  have hobjects : List.Forall₂ ListsItem [porch] (ofItems (.arr [.null, porch])) :=
    hitems [.null, porch]
  obtain ⟨other, _, hother, hrest, hothers⟩ := List.forall₂_cons_left_iff.mp hobjects
  obtain rfl := List.forall₂_nil_left_iff.mp hrest
  have hurl : platform.url ≠ "" := by decide
  refine ⟨hbody, ⟨item, ?_, hitem, hitem.enabled_eq_false_iff.mpr hoff⟩,
    ⟨other, hurl, ?_, hother⟩, rfl, hnone .null rfl⟩
  · rw [hhub hub r _ rfl hbody, hskipped, heq]
  · rw [hplatform platform r _ hurl rfl hbody, hothers]

end HomeAutomation
