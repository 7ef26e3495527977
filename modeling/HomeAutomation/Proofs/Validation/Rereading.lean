import HomeAutomation.Backend.Connection
import HomeAutomation.Backend.Listed
import HomeAutomation.Proofs.Capability.Wire
import HomeAutomation.Proofs.Draft.Accepted

/-!
# The data model is read back from what is written of it

`Reader.Rereads` says that a value, however lenient the reader was with the JSON it came from, is
read again from its own JSON. An object of one of several kinds can also be read by the reader of
its kind; that reader gives only objects of the kind (`kind_of_mem_members`), so it reads them again
as well (`Reader.rereads_of_mem`). `dataModel_rereads` goes through the whole data model.
-/

namespace HomeAutomation

open Checked Json.Fields

namespace Reader

variable {α : Type} {read : Reader α} {write : α → Json}

/-- Whatever has been read is read again from what is written of it. -/
def Rereads (read : Reader α) (write : α → Json) : Prop :=
  ∀ v a, read v = .valid a → read (write a) = .valid a

theorem Rereads.of_eq (h : ∀ a, read (write a) = .valid a) : Rereads read write :=
  fun _ a _ => h a

theorem lookup_eq_of_mem {β : Type} {entries : List (String × β)} {entry : String × β}
    (hnodup : (entries.map Prod.fst).Nodup) (hentry : entry ∈ entries) :
    entries.lookup entry.1 = some entry.2 := by
  obtain ⟨before, after, rfl⟩ := List.append_of_mem hentry
  refine List.lookup_eq_some_iff.mpr ⟨before, after, rfl, ?_⟩
  intro other hother
  rw [List.map_append, List.map_cons, List.nodup_append] at hnodup
  have hne := hnodup.2.2 other.1 (List.mem_map_of_mem hother) entry.1 List.mem_cons_self
  exact bne_iff_ne.mpr hne.symm

/-- The reader of one kind gives objects of that kind, and reads them as they are read by kind. -/
theorem rereads_of_mem {kinds : List (String × (Json.Fields → Checked α))} {kind : α → String}
    {member : String × (Json.Fields → Checked α)}
    (hnodup : (kinds.map Prod.fst).Nodup) (hmember : member ∈ kinds)
    (hkind : ∀ fields a, member.2 fields = .valid a → kind a = member.1)
    (hwrite : ∀ a, ∃ fields : Json.Fields,
      write a = .obj fields ∧ fields.get? "kind" = some (.str (kind a)))
    (hread : ∀ a, tagged kinds (write a) = .valid a) (stray : Flaw) :
    Rereads (record stray member.2) write := by
  intro v a hv
  have hka : kind a = member.1 := by
    cases v with
    | obj fields => exact hkind fields a hv
    | _ => cases hv
  obtain ⟨fields, hfields, hget⟩ := hwrite a
  have htagged := hread a
  rw [hfields, tagged, hget, hka] at htagged
  simp only [lookup_eq_of_mem hnodup hmember, under_eq_valid_iff] at htagged
  rw [hfields, record, htagged]

end Reader

namespace Trigger

def members : List (String × (Json.Fields → Checked Trigger)) :=
  [(stateKind, readState), (deltaKind, readDelta), (positionKind, readPosition),
    (timeKind, readTime)]

variable {member : String × (Json.Fields → Checked Trigger)}

theorem kind_of_mem_members (hmember : member ∈ members) (fields : Json.Fields) :
    ∀ t, member.2 fields = .valid t → t.kind = member.1 := by
  simp only [members, List.mem_cons, List.not_mem_nil, or_false] at hmember
  rcases hmember with rfl | rfl | rfl | rfl
  · exact forall_valid_seq (forall_valid_seq (forall_valid_seq
      (forall_valid_map fun _ _ _ _ => rfl)))
  · exact forall_valid_seq (forall_valid_seq (forall_valid_seq
      (forall_valid_map fun _ _ _ _ => rfl)))
  · exact forall_valid_seq (forall_valid_seq (forall_valid_seq
      (forall_valid_map fun _ _ _ _ => rfl)))
  · exact forall_valid_seq (forall_valid_seq (forall_valid_map fun _ _ _ => rfl))

theorem toJson_eq_obj (t : Trigger) :
    ∃ fields : Json.Fields, t.toJson = .obj fields ∧ fields.get? "kind" = some (.str t.kind) := by
  cases t with
  | state entity target source => exact ⟨_, rfl, rfl⟩
  | delta entity attr direction => exact ⟨_, rfl, rfl⟩
  | position entity attr value => exact ⟨_, rfl, rfl⟩
  | time clock days => exact ⟨_, rfl, rfl⟩

theorem rereads_of_mem_members (hmember : member ∈ members) :
    (Reader.record .notRecord member.2).Rereads toJson :=
  Reader.rereads_of_mem (by decide) hmember (kind_of_mem_members hmember) toJson_eq_obj
    read_toJson .notRecord

end Trigger

namespace TriggerSpec

def members : List (String × (Json.Fields → Checked TriggerSpec)) :=
  [(stateKind, readState), (deltaKind, readDelta), (positionKind, readPosition),
    (timeKind, readTime)]

variable {member : String × (Json.Fields → Checked TriggerSpec)}

theorem kind_of_mem_members (hmember : member ∈ members) (fields : Json.Fields) :
    ∀ spec, member.2 fields = .valid spec → spec.kind = member.1 := by
  simp only [members, List.mem_cons, List.not_mem_nil, or_false] at hmember
  rcases hmember with rfl | rfl | rfl | rfl
  · exact forall_valid_seq (forall_valid_seq (forall_valid_map fun _ _ _ => rfl))
  · exact forall_valid_seq (forall_valid_seq (forall_valid_seq
      (forall_valid_map fun _ _ _ _ => rfl)))
  · exact forall_valid_seq (forall_valid_seq (forall_valid_seq
      (forall_valid_map fun _ _ _ _ => rfl)))
  · exact forall_valid_seq (forall_valid_seq (forall_valid_seq
      (forall_valid_map fun _ _ _ _ => rfl)))

theorem toJson_eq_obj (spec : TriggerSpec) :
    ∃ fields : Json.Fields,
      spec.toJson = .obj fields ∧ fields.get? "kind" = some (.str spec.kind) := by
  cases spec with
  | state info target => exact ⟨_, rfl, rfl⟩
  | delta info attr direction => exact ⟨_, rfl, rfl⟩
  | position info value attr others => exact ⟨_, rfl, rfl⟩
  | time info clock days => exact ⟨_, rfl, rfl⟩

theorem rereads_of_mem_members (hmember : member ∈ members) :
    (Reader.record .notRecord member.2).Rereads toJson :=
  Reader.rereads_of_mem (by decide) hmember (kind_of_mem_members hmember) toJson_eq_obj
    read_toJson .notRecord

end TriggerSpec

namespace ActionSpec

def members : List (String × (Json.Fields → Checked ActionSpec)) :=
  [(buttonKind, readButton), (fixedKind, readFixed), (sliderKind, readSlider),
    (toggleKind, readToggle)]

variable {member : String × (Json.Fields → Checked ActionSpec)}

theorem kind_of_mem_members (hmember : member ∈ members) (fields : Json.Fields) :
    ∀ spec, member.2 fields = .valid spec → spec.kind = member.1 := by
  simp only [members, List.mem_cons, List.not_mem_nil, or_false] at hmember
  rcases hmember with rfl | rfl | rfl | rfl
  · exact forall_valid_seq (forall_valid_seq (forall_valid_seq (forall_valid_seq
      (forall_valid_map fun _ _ _ _ _ => rfl))))
  · exact forall_valid_seq (forall_valid_seq (forall_valid_seq (forall_valid_seq
      (forall_valid_map fun _ _ _ _ _ => rfl))))
  · exact forall_valid_seq (forall_valid_seq (forall_valid_seq (forall_valid_seq
      (forall_valid_seq (forall_valid_seq (forall_valid_map fun _ _ _ _ _ _ _ => rfl))))))
  · exact forall_valid_seq (forall_valid_seq (forall_valid_seq (forall_valid_seq
      (forall_valid_map fun _ _ _ _ _ => rfl))))

theorem toJson_eq_obj (spec : ActionSpec) :
    ∃ fields : Json.Fields,
      spec.toJson = .obj fields ∧ fields.get? "kind" = some (.str spec.kind) := by
  cases spec with
  | button info command value primary => exact ⟨_, rfl, rfl⟩
  | fixed info command value primary => exact ⟨_, rfl, rfl⟩
  | slider info command low high step primary => exact ⟨_, rfl, rfl⟩
  | toggle info commandOn commandOff primary => exact ⟨_, rfl, rfl⟩

theorem rereads_of_mem_members (hmember : member ∈ members) :
    (Reader.record .notRecord member.2).Rereads toJson :=
  Reader.rereads_of_mem (by decide) hmember (kind_of_mem_members hmember) toJson_eq_obj
    read_toJson .notRecord

end ActionSpec

theorem HubConnection.readFields_eq {fields : Json.Fields} {connection : HubConnection}
    (hhome : (Key.mk "baseUrl" "base_url").value fields = .ofText? connection.homeUrl)
    (hcloud : (Key.mk "cloudUrl" "cloud_url").value fields = .ofText? connection.cloudUrl)
    (htoken : (Key.mk "longLivedToken" "long_lived_token").value fields = .str connection.token) :
    readFields fields = .valid connection := by
  rw [readFields, optional_text_eq hhome, optional_text_eq hcloud,
    orDefault_eq_valid htoken nofun (Reader.text_str connection.token)]
  rfl

theorem HubConnection.read_toJson (connection : HubConnection) :
    read connection.toJson = .valid connection :=
  readFields_eq rfl rfl rfl

theorem ListedAutomation.readFields_eq {fields : Json.Fields} {item : ListedAutomation}
    (hid : (Key.single "id").value fields = .str item.id)
    (htitle : (Key.single "alias").value fields = .str item.title)
    (hdescription : (Key.single "description").value fields = .ofText? item.description)
    (henabled : (Key.single "enabled").value fields = .bool item.enabled)
    (hbasic : (Key.mk "basicSummary" "basic_summary").value fields = .ofText? item.basicSummary)
    (htrigger : (Key.mk "triggerSummary" "trigger_summary").value fields =
      .ofText? item.triggerSummary)
    (haction : (Key.mk "actionSummary" "action_summary").value fields =
      .ofText? item.actionSummary) :
    readFields fields = .valid item := by
  rw [readFields, required_text_eq hid, required_text_eq htitle, optional_text_eq hdescription,
    orDefault_eq_valid henabled nofun (Reader.truth_bool item.enabled), optional_text_eq hbasic,
    optional_text_eq htrigger, optional_text_eq haction]
  rfl

theorem ListedAutomation.read_toJson (item : ListedAutomation) :
    read item.toJson = .valid item :=
  readFields_eq rfl rfl rfl rfl rfl rfl rfl

/-- Every part of the data model is read again from its JSON with all fields, and a draft also from
its JSON without the nulls. -/
theorem dataModel_rereads :
    (∀ member ∈ Trigger.members,
      (Reader.record .notRecord member.2).Rereads Trigger.toJson) ∧
    Trigger.read.Rereads Trigger.toJson ∧
    (Reader.record .notRecord Action.readFields).Rereads Action.toJson ∧
    Draft.read.Rereads Draft.toJson ∧
    Draft.read.Rereads Draft.toWire ∧
    ListedAutomation.read.Rereads ListedAutomation.toJson ∧
    HubConnection.read.Rereads HubConnection.toJson ∧
    (Reader.record .notRecord SpecInfo.read).Rereads (fun info => .obj info.toFields) ∧
    (∀ member ∈ TriggerSpec.members,
      (Reader.record .notRecord member.2).Rereads TriggerSpec.toJson) ∧
    TriggerSpec.read.Rereads TriggerSpec.toJson ∧
    (∀ member ∈ ActionSpec.members,
      (Reader.record .notRecord member.2).Rereads ActionSpec.toJson) ∧
    ActionSpec.read.Rereads ActionSpec.toJson ∧
    Capability.read.Rereads Capability.toJson := by
  refine ⟨fun member hmember => Trigger.rereads_of_mem_members hmember, .of_eq Trigger.read_toJson,
    .of_eq (Action.read_toJson .notRecord), .of_eq Draft.read_toJson, .of_eq Draft.read_toWire,
    .of_eq ListedAutomation.read_toJson, .of_eq HubConnection.read_toJson, .of_eq fun info => ?_,
    fun member hmember => TriggerSpec.rereads_of_mem_members hmember,
    .of_eq TriggerSpec.read_toJson,
    fun member hmember => ActionSpec.rereads_of_mem_members hmember, .of_eq ActionSpec.read_toJson,
    .of_eq Capability.read_toJson⟩
  have hfields := info.read_toFields []
  rwa [List.append_nil] at hfields

/-- A draft under plain names, with a position that is a text and no number. -/
def undefinedPosition : Json :=
  .obj [("alias", .str "Blinds"), ("trigger_time", .null),
    ("triggers", .arr [.obj [("kind", .str "position_equals"), ("entity_id", .str "cover.blind"),
      ("attribute", .str "current_position"), ("value", .str " NaN ")]])]

theorem dataModel_rereads_undefinedPosition :
    ∃ draft, Draft.read undefinedPosition = .valid draft ∧
      draft.triggers = [.position "cover.blind" "current_position" Decimal.notANumber] ∧
      Draft.read draft.toJson = .valid draft ∧ Draft.read draft.toWire = .valid draft := by
  obtain ⟨-, -, -, hjson, hwire, -⟩ := dataModel_rereads
  have hread : Draft.read undefinedPosition = .valid
      { Draft.eveningLights with
        title := ⟨"Blinds", by decide⟩
        triggers := [.position "cover.blind" "current_position" Decimal.notANumber]
        actions := [] } := by
    rfl
  exact ⟨_, hread, rfl, hjson _ _ hread, hwire _ _ hread⟩

end HomeAutomation
