import HomeAutomation.Capability.Basic
import HomeAutomation.Proofs.Draft.Layout

/-!
# The fields of the capability catalog

A capability is laid out as a draft is: a trigger spec and an action spec have the fields of every
spec and those of their kind. `layout_isHidden` says of drafts and capabilities together that
their readers see what a value means, and of its layout only the names in the issues.
-/

namespace HomeAutomation

open Reader (Reads)

/-- The fields of every spec, besides the kind. -/
def SpecInfo.keys : List Key :=
  [.single "id", .single "label", .single "surfaces"]

theorem SpecInfo.alike_read {strict : Bool} {own : List Key} {fields other : Json.Fields}
    (h : Key.Agree strict (.single "kind" :: (keys ++ own)) fields other) :
    (read fields).Alike strict (read other) :=
  (h.alike_required (by simp [keys]) _).map _
    |>.seq (h.alike_required (by simp [keys]) _)
    |>.seq (h.alike_orDefault (by simp [keys]) _ _)

namespace TriggerSpec

/-- The fields of each kind of trigger spec, besides the kind. -/
def kindKeys : List (String × List Key) :=
  [(stateKind, SpecInfo.keys ++ [⟨"entityState", "entity_state"⟩]),
    (deltaKind, SpecInfo.keys ++ [.single "attribute", .single "direction"]),
    (positionKind, SpecInfo.keys ++ [.single "equals", .single "attributes"]),
    (timeKind, SpecInfo.keys ++ [.single "at", .days])]

theorem reads_state :
    Reads (.single "kind" :: (SpecInfo.keys ++ [⟨"entityState", "entity_state"⟩])) readState := by
  intro strict fields other h
  exact (SpecInfo.alike_read h).map _
    |>.seq (h.alike_ofKind (by simp) _)
    |>.seq (h.alike_required (by simp) _)

theorem reads_delta :
    Reads (.single "kind" :: (SpecInfo.keys ++ [.single "attribute", .single "direction"]))
      readDelta := by
  intro strict fields other h
  exact (SpecInfo.alike_read h).map _
    |>.seq (h.alike_ofKind (by simp) _)
    |>.seq (h.alike_required (by simp) _)
    |>.seq (h.alike_required (by simp) _)

theorem reads_position :
    Reads (.single "kind" :: (SpecInfo.keys ++ [.single "equals", .single "attributes"]))
      readPosition := by
  intro strict fields other h
  exact (SpecInfo.alike_read h).map _
    |>.seq (h.alike_ofKind (by simp) _)
    |>.seq (h.alike_required (by simp) _)
    |>.seq (h.alike_required (by simp) _)

theorem reads_time :
    Reads (.single "kind" :: (SpecInfo.keys ++ [.single "at", .days])) readTime := by
  intro strict fields other h
  exact (SpecInfo.alike_read h).map _
    |>.seq (h.alike_ofKind (by simp) _)
    |>.seq (h.alike_required (by simp) _)
    |>.seq (h.alike_optional (by simp) _)

theorem readsByKind :
    Reader.ReadsByKind [(stateKind, readState), (deltaKind, readDelta),
      (positionKind, readPosition), (timeKind, readTime)] kindKeys :=
  .cons ⟨rfl, reads_state⟩ (.cons ⟨rfl, reads_delta⟩
    (.cons ⟨rfl, reads_position⟩ (.cons ⟨rfl, reads_time⟩ .nil)))

end TriggerSpec

namespace ActionSpec

def kindKeys : List (String × List Key) :=
  [(buttonKind, SpecInfo.keys ++ [.single "command", .single "value", .single "primary"]),
    (fixedKind, SpecInfo.keys ++ [.single "command", .single "value", .single "primary"]),
    (sliderKind, SpecInfo.keys ++ [.single "command", .single "min", .single "max", .single "step",
      .single "primary"]),
    (toggleKind, SpecInfo.keys ++ [⟨"commandOn", "command_on"⟩, ⟨"commandOff", "command_off"⟩,
      .single "primary"])]

theorem reads_button :
    Reads (.single "kind" ::
      (SpecInfo.keys ++ [.single "command", .single "value", .single "primary"])) readButton := by
  intro strict fields other h
  exact (SpecInfo.alike_read h).map _
    |>.seq (h.alike_ofKind (by simp) _)
    |>.seq (h.alike_required (by simp) _)
    |>.seq (h.alike_optional (by simp) _)
    |>.seq (h.alike_orDefault (by simp) _ _)

theorem reads_fixed :
    Reads (.single "kind" ::
      (SpecInfo.keys ++ [.single "command", .single "value", .single "primary"])) readFixed := by
  intro strict fields other h
  exact (SpecInfo.alike_read h).map _
    |>.seq (h.alike_ofKind (by simp) _)
    |>.seq (h.alike_required (by simp) _)
    |>.seq (h.alike_required (by simp) _)
    |>.seq (h.alike_orDefault (by simp) _ _)

theorem reads_slider :
    Reads (.single "kind" :: (SpecInfo.keys ++ [.single "command", .single "min", .single "max",
      .single "step", .single "primary"])) readSlider := by
  intro strict fields other h
  exact (SpecInfo.alike_read h).map _
    |>.seq (h.alike_ofKind (by simp) _)
    |>.seq (h.alike_required (by simp) _)
    |>.seq (h.alike_required (by simp) _)
    |>.seq (h.alike_required (by simp) _)
    |>.seq (h.alike_optional (by simp) _)
    |>.seq (h.alike_orDefault (by simp) _ _)

theorem reads_toggle :
    Reads (.single "kind" :: (SpecInfo.keys ++ [⟨"commandOn", "command_on"⟩,
      ⟨"commandOff", "command_off"⟩, .single "primary"])) readToggle := by
  intro strict fields other h
  exact (SpecInfo.alike_read h).map _
    |>.seq (h.alike_ofKind (by simp) _)
    |>.seq (h.alike_required (by simp) _)
    |>.seq (h.alike_required (by simp) _)
    |>.seq (h.alike_orDefault (by simp) _ _)

theorem readsByKind :
    Reader.ReadsByKind [(buttonKind, readButton), (fixedKind, readFixed),
      (sliderKind, readSlider), (toggleKind, readToggle)] kindKeys :=
  .cons ⟨rfl, reads_button⟩ (.cons ⟨rfl, reads_fixed⟩
    (.cons ⟨rfl, reads_slider⟩ (.cons ⟨rfl, reads_toggle⟩ .nil)))

end ActionSpec

namespace Capability

def ownKeys : List Key :=
  [⟨"excludeFromAutomations", "exclude_from_automations"⟩]

/-- The fields of a capability and of its specs. -/
def layout : Layout where
  own := ownKeys
  trigger := Key.ofTagged TriggerSpec.kindKeys
  action := Key.ofTagged ActionSpec.kindKeys

theorem layout_isSeparate : layout.IsSeparate where
  keys := by decide
  trigger := Key.separate_ofTagged (by decide)
  action := Key.separate_ofTagged (by decide)

theorem layout_fits : layout.Fits readFields TriggerSpec.read ActionSpec.read where
  whole := by
    intro strict fields other (h : Key.Agree strict ownKeys fields other) htriggers hactions
    exact htriggers.map _
      |>.seq hactions
      |>.seq (h.alike_orDefault (by simp [ownKeys]) _ _)
  trigger _ _ _ h := TriggerSpec.readsByKind.alike_tagged h
  action _ _ _ h := ActionSpec.readsByKind.alike_tagged h

theorem isHiddenFrom_read : layout.IsHiddenFrom read :=
  layout_fits.isHiddenFrom layout_isSeparate .notRecord

end Capability

/-- How a draft or a capability is laid out is hidden from its reader, at the top as well as in each
of its triggers and actions, and whether or not there is anything wrong with it. -/
theorem layout_isHidden :
    Draft.layout.IsHiddenFrom Draft.read ∧ Draft.layout.IsHiddenFrom Draft.readBody ∧
      Capability.layout.IsHiddenFrom Capability.read :=
  ⟨Draft.isHiddenFrom .notRecord, Draft.isHiddenFrom .noFields, Capability.isHiddenFrom_read⟩

/-- A draft without a title and with a trigger that names no entity; its time stands there twice. -/
def unfinishedDraft : Json :=
  .obj [("triggerTime", .str "07:00"), ("trigger_time", .int 7),
    ("triggers", .arr [.obj [("kind", .str "state")]])]

def porchDraft : Json :=
  .obj [("alias", .str "Porch"),
    ("triggers", .arr [.obj [("kind", .str "state"), ("entityId", .str "light.porch")]])]

theorem layout_isHidden_porch :
    let relaid := Json.obj [("triggers", .arr [.obj [("note", .null), ("kind", .str "state")]]),
      ("triggerTime", .str "07:00")]
    let respelled := Json.obj [("alias", .str "Porch"),
      ("triggers", .arr [.obj [("kind", .str "state"), ("entity_id", .str "light.porch")]])]
    Draft.read unfinishedDraft = .invalid [⟨[.name "alias"], .missing⟩,
        ⟨[.name "triggers", .index 0, .kind "state", .name "entityId"], .missing⟩] ∧
      Draft.read unfinishedDraft = Draft.read relaid ∧
      ∃ draft, Draft.read porchDraft = .valid draft ∧ Draft.read respelled = .valid draft := by
  intro relaid respelled
  have hshadowed : Draft.layout.Changes Relaid unfinishedDraft
      (.obj [("triggerTime", .str "07:00"), ("triggers", .arr [.obj [("kind", .str "state")]])]) :=
    .whole (@Relaid.shadowed _ [("triggerTime", .str "07:00")] _ ⟨"triggerTime", "trigger_time"⟩ _
      (by simp [Layout.keys, Draft.layout, Draft.ownKeys]) (by decide) (by decide))
  have hextended : Draft.layout.Changes Relaid
      (.obj [("triggerTime", .str "07:00"), ("triggers", .arr [.obj [("kind", .str "state")]])])
      (.obj [("triggerTime", .str "07:00"),
        ("triggers", .arr [.obj [("note", .null), ("kind", .str "state")]])]) :=
    .trigger (@InList.item _ _ [("triggerTime", .str "07:00")] [] [] [] _ _ (by decide)
      (@Relaid.extended _ [] [("kind", .str "state")] _ _ (by decide)))
  have hpermuted : Draft.layout.Changes Relaid
      (.obj [("triggerTime", .str "07:00"),
        ("triggers", .arr [.obj [("note", .null), ("kind", .str "state")]])]) relaid :=
    .whole (.permuted (by decide) (.swap _ _ _))
  have hrenamed : Draft.layout.Changes Respelled porchDraft respelled :=
    .trigger (@InList.item _ _ [("alias", .str "Porch")] [] [] [] _ _ (by decide)
      (@Respelled.renamed _ [("kind", .str "state")] [] .entity _ (.tail _ (.head _))
        (by decide) (by decide)))
  obtain ⟨hdraft, -, -⟩ := layout_isHidden
  have hread : ∃ draft, Draft.read porchDraft = .valid draft := ⟨_, rfl⟩
  obtain ⟨draft, hporch⟩ := hread
  refine ⟨rfl, hdraft.relaid _ _ (.head hshadowed (.head hextended (.single hpermuted))), draft,
    hporch, ?_⟩
  exact (hdraft.respelled _ _ (.single hrenamed) draft).mp hporch

end HomeAutomation
