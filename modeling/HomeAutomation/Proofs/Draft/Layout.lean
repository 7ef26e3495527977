import HomeAutomation.Draft.Basic
import HomeAutomation.Proofs.Validation.Layout

/-!
# The fields of drafts

For each model of a draft: its fields, and that its reader asks for no others. The layout of a draft
is therefore hidden from the reader of drafts (`Draft.isHiddenFrom`).
-/

namespace HomeAutomation

open Reader (Reads)

namespace Trigger

/-- The fields of each kind of trigger, besides the kind. -/
def kindKeys : List (String × List Key) :=
  [(stateKind, [.entity, .single "to", .source]),
    (deltaKind, [.entity, .single "attribute", .single "direction"]),
    (positionKind, [.entity, .single "attribute", .single "value"]),
    (timeKind, [.single "at", .days])]

theorem reads_state : Reads [.single "kind", .entity, .single "to", .source] readState := by
  intro strict fields other h
  exact (h.alike_ofKind (by simp) _).map _
    |>.seq (h.alike_required (by simp) _)
    |>.seq (h.alike_optional (by simp) _)
    |>.seq (h.alike_optional (by simp) _)

theorem reads_delta :
    Reads [.single "kind", .entity, .single "attribute", .single "direction"] readDelta := by
  intro strict fields other h
  exact (h.alike_ofKind (by simp) _).map _
    |>.seq (h.alike_required (by simp) _)
    |>.seq (h.alike_orDefault (by simp) _ _)
    |>.seq (h.alike_required (by simp) _)

theorem reads_position :
    Reads [.single "kind", .entity, .single "attribute", .single "value"] readPosition := by
  intro strict fields other h
  exact (h.alike_ofKind (by simp) _).map _
    |>.seq (h.alike_required (by simp) _)
    |>.seq (h.alike_required (by simp) _)
    |>.seq (h.alike_required (by simp) _)

theorem reads_time : Reads [.single "kind", .single "at", .days] readTime := by
  intro strict fields other h
  exact (h.alike_ofKind (by simp) _).map _
    |>.seq (h.alike_required (by simp) _)
    |>.seq (h.alike_optional (by simp) _)

theorem readsByKind :
    Reader.ReadsByKind [(stateKind, readState), (deltaKind, readDelta),
      (positionKind, readPosition), (timeKind, readTime)] kindKeys :=
  .cons ⟨rfl, reads_state⟩ (.cons ⟨rfl, reads_delta⟩
    (.cons ⟨rfl, reads_position⟩ (.cons ⟨rfl, reads_time⟩ .nil)))

end Trigger

namespace Action

def keys : List Key :=
  [.single "kind", .entity, .single "command", .single "value"]

theorem reads_fields : Reads keys readFields := by
  intro strict fields other h
  exact (h.alike_ofKind (by simp [keys]) _).map _
    |>.seq (h.alike_required (by simp [keys]) _)
    |>.seq (h.alike_required (by simp [keys]) _)
    |>.seq (h.alike_optional (by simp [keys]) _)

end Action

namespace Draft

def ownKeys : List Key :=
  [.single "id", .single "alias", .single "description", .single "mode", .days,
    ⟨"triggerTime", "trigger_time"⟩]

/-- The fields of a draft and of its parts. -/
def layout : Layout where
  own := ownKeys
  trigger := Key.ofTagged Trigger.kindKeys
  action := fun _ => Action.keys

theorem layout_isSeparate : layout.IsSeparate where
  keys := by decide
  trigger := Key.separate_ofTagged (by decide)
  action := fun _ => (by decide : Key.Separate Action.keys)

theorem layout_fits (stray : Flaw) :
    layout.Fits (readFields stray) Trigger.read (Reader.record stray Action.readFields) where
  whole := by
    intro strict fields other (h : Key.Agree strict ownKeys fields other) htriggers hactions
    exact (h.alike_optional (by simp [ownKeys]) _).map _
      |>.seq (h.alike_required (by simp [ownKeys]) _)
      |>.seq (h.alike_optional (by simp [ownKeys]) _)
      |>.seq (h.alike_optional (by simp [ownKeys]) _)
      |>.seq htriggers
      |>.seq hactions
      |>.seq (h.alike_optional (by simp [ownKeys]) _)
      |>.seq (h.alike_optional (by simp [ownKeys]) _)
  trigger _ _ _ h := Trigger.readsByKind.alike_tagged h
  action _ fields other h := Action.reads_fields _ fields other h

theorem isHiddenFrom (stray : Flaw) :
    layout.IsHiddenFrom (Reader.record stray (readFields stray)) :=
  (layout_fits stray).isHiddenFrom layout_isSeparate stray

end Draft

end HomeAutomation
