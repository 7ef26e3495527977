import HomeAutomation.Proofs.Validation.Field
import Mathlib.Data.List.Pairwise
import Mathlib.Logic.Relation

/-!
# Readers do not see the layout of an object

A reader of an object asks for the fields of its model, one after the other, and a field is what
`Key.find?` finds of it. So two objects that agree on the fields of the model (`Key.Agree`) are read
alike (`Checked.Alike`). Agreement comes in two strengths. If it is strict, the fields stand under
the same names, and the issues are the same as well; otherwise only the values are. An object keeps
its fields strictly when it is `Relaid`, and it keeps their values when it is `Respelled`.

An object of several kinds has the fields of its kind (`Key.ofTagged`). A `Layout` tells the fields
of an object with triggers and actions from those of the objects in these two lists, and
`Layout.Changes` makes one change in one of them. `Layout.Fits.isHiddenFrom` goes from one change to
any number of changes.
-/

namespace HomeAutomation

open Json (Fields)

namespace Checked

variable {α β : Type} {strict : Bool}

/-- The same value, or no value in both cases; if `strict`, then for the same reasons. -/
inductive Alike (strict : Bool) : Checked α → Checked α → Prop
  | valid (a : α) : Alike strict (.valid a) (.valid a)
  | invalid {issues more : List Issue} (h : strict = true → issues = more) :
    Alike strict (.invalid issues) (.invalid more)

namespace Alike

variable {x y : Checked α}

theorem refl (x : Checked α) : x.Alike strict x := by
  cases x with
  | valid a => exact .valid a
  | invalid issues => exact .invalid fun _ => rfl

theorem eq (h : x.Alike true y) : x = y := by
  cases h with
  | valid a => rfl
  | invalid h => rw [h rfl]

theorem eq_valid_iff (h : x.Alike strict y) (a : α) : x = .valid a ↔ y = .valid a := by
  cases h with
  | valid b => rfl
  | invalid h => exact ⟨nofun, nofun⟩

theorem map (f : α → β) (h : x.Alike strict y) : (f <$> x).Alike strict (f <$> y) := by
  cases h with
  | valid a => exact .valid (f a)
  | invalid h => exact .invalid h

theorem seq {f g : Checked (α → β)} (hf : f.Alike strict g) (hx : x.Alike strict y) :
    (f <*> x).Alike strict (g <*> y) := by
  cases hf with
  | valid f =>
      cases hx with
      | valid a => exact .valid (f a)
      | invalid hx => exact .invalid hx
  | invalid hf =>
      cases hx with
      | valid a => exact .invalid hf
      | invalid hx => exact .invalid fun hstrict => by rw [hf hstrict, hx hstrict]

theorem under {m n : Step} (hstep : strict = true → m = n) (h : x.Alike strict y) :
    (x.under m).Alike strict (y.under n) := by
  cases h with
  | valid a => exact .valid a
  | invalid h => exact .invalid fun hstrict => by rw [hstep hstrict, h hstrict]

end Alike

end Checked

namespace Json.Fields

variable {before after fields other : Fields} {n name : String} {v : Json}

theorem get?_of_perm (hnodup : (fields.map Prod.fst).Nodup) (h : fields.Perm other)
    (name : String) : other.get? name = fields.get? name := by
  induction h with
  | nil => rfl
  | cons entry _ ih => rw [get?_cons, get?_cons, ih (List.nodup_cons.mp hnodup).2]
  | swap second first rest =>
      have hne : first.1 ≠ second.1 := by
        rintro heq
        simp [heq] at hnodup
      rw [get?_cons, get?_cons, get?_cons, get?_cons]
      by_cases hfirst : name = first.1
      · rw [if_pos hfirst, if_neg (hfirst ▸ hne), if_pos hfirst]
      · rw [if_neg hfirst, if_neg hfirst]
  | trans hfirst _ ih₁ ih₂ =>
      rw [ih₂ ((hfirst.map Prod.fst).nodup_iff.mp hnodup), ih₁ hnodup]

theorem get?_append_cons_of_ne (h : name ≠ n) :
    get? (before ++ (n, v) :: after) name = get? (before ++ after) name := by
  induction before with
  | nil => rw [List.nil_append, List.nil_append, get?_cons, if_neg h]
  | cons entry rest ih => rw [List.cons_append, List.cons_append, get?_cons, get?_cons, ih]

theorem get?_append_cons_self (h : n ∉ before.map Prod.fst) :
    get? (before ++ (n, v) :: after) n = some v := by
  induction before with
  | nil => rw [List.nil_append, get?_cons, if_pos rfl]
  | cons entry rest ih =>
      rw [List.map_cons, List.mem_cons, not_or] at h
      rw [List.cons_append, get?_cons, if_neg h.1, ih h.2]

end Json.Fields

namespace Key

open Json.Fields

variable {strict : Bool} {keys : List Key} {fields other : Fields}

def names (key : Key) : List String :=
  [key.wire, key.plain]

/-- No two of the fields share a name. -/
def Separate (keys : List Key) : Prop :=
  keys.Pairwise fun key other => ∀ name ∈ key.names, name ∉ other.names

instance (keys : List Key) : Decidable (Separate keys) :=
  inferInstanceAs (Decidable (keys.Pairwise _))

/-- The same value is found, or nothing in both cases; if `strict`, then under the same name. -/
def SameFound (strict : Bool) : Option (String × Json) → Option (String × Json) → Prop :=
  Option.Rel fun found also => (strict = true → found.1 = also.1) ∧ found.2 = also.2

/-- The same is found of each of the fields. -/
def Agree (strict : Bool) (keys : List Key) (fields other : Fields) : Prop :=
  ∀ key ∈ keys, SameFound strict (key.find? fields) (key.find? other)

/-- The fields of an object that is read as its `kind` says. Of an object of no known kind only the
kind is looked at. -/
def ofTagged (kinds : List (String × List Key)) (fields : Fields) : List Key :=
  .single "kind" ::
    (((fields.get? "kind").bind Json.text?).bind fun kind => kinds.lookup kind).getD []

theorem find?_congr {key : Key} (h : ∀ name ∈ key.names, fields.get? name = other.get? name) :
    key.find? fields = key.find? other := by
  rw [find?, find?, h key.wire (.head _), h key.plain (.tail _ (.head _))]

/-- Where the wire name is missing, the plain name is found. -/
theorem find?_append_cons_plain {before after : Fields} {key : Key} {v : Json}
    (hwire : key.wire ∉ (before ++ after).map Prod.fst) (hplain : key.plain ∉ before.map Prod.fst) :
    key.find? (before ++ (key.plain, v) :: after) = some (key.plain, v) := by
  have hv : get? (before ++ (key.plain, v) :: after) key.plain = some v :=
    get?_append_cons_self hplain
  by_cases hsame : key.plain = key.wire
  · have hwire : get? (before ++ (key.plain, v) :: after) key.wire = some v := by
      rw [← hsame, hv]
    rw [find?_of_wire hwire, hsame]
  · have hnone : get? (before ++ (key.plain, v) :: after) key.wire = none := by
      rw [get?_append_cons_of_ne (Ne.symm hsame), get?_eq_none_iff]
      exact hwire
    rw [find?_of_plain hnone, hv, Option.map_some]

theorem SameFound.of_eq {found also : Option (String × Json)} (h : found = also) :
    SameFound strict found also := by
  subst h
  cases found with
  | none => exact .none
  | some found => exact .some ⟨fun _ => rfl, rfl⟩

theorem SameFound.map_snd_eq {found also : Option (String × Json)}
    (h : SameFound strict found also) : found.map Prod.snd = also.map Prod.snd := by
  cases h with
  | none => rfl
  | some h => rw [Option.map_some, Option.map_some, h.2]

/-- What is found is read alike, and so is what stands in for a missing value. -/
theorem SameFound.alike {α : Type} {found also : Option (String × Json)} (read : Reader α)
    (missing : Checked α) : SameFound strict found also →
    Checked.Alike strict
      (match found with
        | some (name, v) => (read v).under (.name name)
        | none => missing)
      (match also with
        | some (name, v) => (read v).under (.name name)
        | none => missing) := by
  intro h
  cases h with
  | none => exact .refl missing
  | @some found also h =>
      obtain ⟨name, v⟩ := found
      obtain ⟨other, w⟩ := also
      obtain ⟨hname, rfl⟩ := h
      exact (Checked.Alike.refl (read v)).under fun hstrict => congrArg Step.name (hname hstrict)

theorem Agree.mono {more : List Key} (h : Agree strict more fields other)
    (hsub : ∀ key ∈ keys, key ∈ more) : Agree strict keys fields other :=
  fun key hkey => h key (hsub key hkey)

theorem not_mem_names_of_ne (hkeys : Separate keys) {key also : Key} (hkey : key ∈ keys)
    (halso : also ∈ keys) (hne : also ≠ key) {name : String} (hname : name ∈ key.names) :
    name ∉ also.names := by
  have hsymm : Std.Symm fun key other : Key => ∀ name ∈ key.names, name ∉ other.names :=
    ⟨fun _ _ h name hname hother => h name hother hname⟩
  exact List.Pairwise.forall hkeys hkey halso hne.symm name hname

theorem separate_ofTagged {kinds : List (String × List Key)}
    (h : ∀ entry ∈ kinds, Separate (.single "kind" :: entry.2)) (fields : Fields) :
    Separate (ofTagged kinds fields) := by
  unfold ofTagged
  cases hkeys : ((fields.get? "kind").bind Json.text?).bind fun kind => kinds.lookup kind with
  | none => exact List.pairwise_singleton _ _
  | some keys =>
      obtain ⟨kind, -, hlookup⟩ := Option.bind_eq_some_iff.mp hkeys
      obtain ⟨before, after, rfl, -⟩ := List.lookup_eq_some_iff.mp hlookup
      exact h (kind, keys) (List.mem_append_right _ (.head _))

end Key

section Edits

open Json.Fields

variable {strict : Bool} {keys : List Key} {fields other : Fields}

/-- One edit of an object that leaves its fields where they were found: the names come in another
order, a name is added that belongs to no field, or a field loses its plain name that also has its
wire name. -/
inductive Relaid (keys : List Key) : Fields → Fields → Prop
  | permuted {fields other : Fields} (hnodup : (fields.map Prod.fst).Nodup)
      (h : fields.Perm other) : Relaid keys fields other
  | extended {before after : Fields} {name : String} {v : Json}
      (h : ∀ key ∈ keys, name ∉ key.names) :
    Relaid keys (before ++ after) (before ++ (name, v) :: after)
  | shadowed {before after : Fields} {key : Key} {v : Json} (hkey : key ∈ keys)
      (hne : key.plain ≠ key.wire) (hwire : key.wire ∈ (before ++ after).map Prod.fst) :
    Relaid keys (before ++ (key.plain, v) :: after) (before ++ after)

/-- One edit of an object that leaves its fields their values: it may also put the plain name of a
field for its wire name, when neither of them stands anywhere else. -/
inductive Respelled (keys : List Key) : Fields → Fields → Prop
  | relaid {fields other : Fields} (h : Relaid keys fields other) : Respelled keys fields other
  | renamed {before after : Fields} {key : Key} {v : Json} (hkey : key ∈ keys)
      (hwire : key.wire ∉ (before ++ after).map Prod.fst)
      (hplain : key.plain ∉ (before ++ after).map Prod.fst) :
    Respelled keys (before ++ (key.wire, v) :: after) (before ++ (key.plain, v) :: after)

theorem Relaid.find?_eq (hkeys : Key.Separate keys) (h : Relaid keys fields other) {key : Key}
    (hkey : key ∈ keys) : key.find? fields = key.find? other := by
  cases h with
  | permuted hnodup h => exact Key.find?_congr fun name _ => (get?_of_perm hnodup h name).symm
  | extended h =>
      refine Key.find?_congr fun name hname => (get?_append_cons_of_ne ?_).symm
      rintro rfl
      exact h key hkey hname
  | @shadowed before after also v halso hne hwire =>
      by_cases heq : key = also
      · subst heq
        obtain ⟨w, hw⟩ := Option.ne_none_iff_exists'.mp (mt get?_eq_none_iff.mp (not_not.mpr hwire))
        have hw' : get? (before ++ (key.plain, v) :: after) key.wire = some w := by
          rw [get?_append_cons_of_ne hne.symm, hw]
        rw [Key.find?_of_wire hw, Key.find?_of_wire hw']
      · refine Key.find?_congr fun name hname => get?_append_cons_of_ne ?_
        rintro rfl
        exact Key.not_mem_names_of_ne hkeys hkey halso (Ne.symm heq) hname (.tail _ (.head _))

theorem Relaid.agree (hkeys : Key.Separate keys) (h : Relaid keys fields other) :
    Key.Agree strict keys fields other :=
  fun _ hkey => .of_eq (h.find?_eq hkeys hkey)

theorem Respelled.agree (hkeys : Key.Separate keys) (h : Respelled keys fields other) :
    Key.Agree false keys fields other := by
  cases h with
  | relaid h => exact h.agree hkeys
  | @renamed before after also v halso hwire hplain =>
      have hbefore {name : String} (h : name ∉ (before ++ after).map Prod.fst) :
          name ∉ before.map Prod.fst := by
        rw [List.map_append] at h
        exact fun hmem => h (List.mem_append_left _ hmem)
      intro key hkey
      by_cases heq : key = also
      · subst heq
        rw [Key.find?_of_wire (get?_append_cons_self (hbefore hwire)),
          Key.find?_append_cons_plain hwire (hbefore hplain)]
        exact .some ⟨nofun, rfl⟩
      · refine .of_eq (Key.find?_congr fun name hname => ?_)
        have hname := Key.not_mem_names_of_ne hkeys hkey halso (Ne.symm heq) hname
        simp only [Key.names, List.mem_cons, List.not_mem_nil, or_false, not_or] at hname
        rw [get?_append_cons_of_ne hname.1, get?_append_cons_of_ne hname.2]

end Edits

section Reads

variable {α : Type} {strict : Bool} {keys : List Key} {fields other : Fields}

namespace Key.Agree

variable {key : Key}

theorem alike_required (h : Agree strict keys fields other) (hkey : key ∈ keys)
    (read : Reader α) : (fields.required key read).Alike strict (other.required key read) :=
  Key.SameFound.alike read _ (h key hkey)

theorem alike_orDefault (h : Agree strict keys fields other) (hkey : key ∈ keys) (default : α)
    (read : Reader α) :
    (fields.orDefault key default read).Alike strict (other.orDefault key default read) :=
  Key.SameFound.alike read _ (h key hkey)

theorem alike_optional (h : Agree strict keys fields other) (hkey : key ∈ keys)
    (read : Reader α) : (fields.optional key read).Alike strict (other.optional key read) :=
  h.alike_orDefault hkey none (Reader.nullable read)

theorem alike_ofKind (h : Agree strict keys fields other) (hkey : .single "kind" ∈ keys)
    (kind : String) : (fields.ofKind kind).Alike strict (other.ofKind kind) :=
  h.alike_orDefault hkey () (Reader.exactly kind)

/-- The kind has one name only, so objects that agree on it have the same kind, strictly or not. -/
theorem get?_kind_eq (h : Agree strict keys fields other) (hkey : .single "kind" ∈ keys) :
    fields.get? "kind" = other.get? "kind" := by
  have hget (fields : Fields) :
      fields.get? "kind" = ((single "kind").find? fields).map Prod.snd := by
    unfold find? single
    cases fields.get? "kind" <;> rfl
  rw [hget fields, hget other, (h _ hkey).map_snd_eq]

end Key.Agree

namespace Reader

/-- The reader of an object looks at nothing but these fields. -/
def Reads (keys : List Key) (read : Fields → Checked α) : Prop :=
  ∀ strict fields other, Key.Agree strict keys fields other →
    (read fields).Alike strict (read other)

/-- The reader of each kind looks at nothing but the kind and the fields that stand beside the kind
in the table. -/
def ReadsByKind (kinds : List (String × (Fields → Checked α))) (table : List (String × List Key)) :
    Prop :=
  List.Forall₂ (fun kind entry => kind.1 = entry.1 ∧ Reads (.single "kind" :: entry.2) kind.2)
    kinds table

variable {kinds : List (String × (Fields → Checked α))} {table : List (String × List Key)}

theorem ReadsByKind.rel_lookup (hkinds : ReadsByKind kinds table) (kind : String) :
    Option.Rel (fun read keys => Reads (.single "kind" :: keys) read) (kinds.lookup kind)
      (table.lookup kind) := by
  induction hkinds with
  | nil => exact .none
  | @cons first entry _ _ hfirst _ ih =>
      rw [List.lookup_cons, List.lookup_cons, hfirst.1]
      cases kind == entry.1 with
      | true => exact .some hfirst.2
      | false => exact ih

theorem ReadsByKind.alike_tagged (hkinds : ReadsByKind kinds table)
    (h : Key.Agree strict (Key.ofTagged table fields) fields other) :
    (tagged kinds (.obj fields)).Alike strict (tagged kinds (.obj other)) := by
  have hkind := h.get?_kind_eq (.head _)
  unfold Key.ofTagged at h
  unfold tagged
  simp only [← hkind]
  cases hget : fields.get? "kind" with
  | none => exact .refl _
  | some v =>
      cases v with
      | str kind =>
          rw [hget, Option.bind_some, Json.text?, Option.bind_some] at h
          have hlookup := hkinds.rel_lookup kind
          dsimp only
          generalize kinds.lookup kind = read at hlookup ⊢
          generalize table.lookup kind = keys at hlookup h
          cases hlookup with
          | none => exact .refl _
          | some hreads => exact (hreads strict fields other h).under fun _ => rfl
      | _ => exact .refl _

theorem alike_items {read : Reader α} {v w : Json} (h : (read v).Alike strict (read w))
    (before after : List Json) (index : Nat) :
    (items read index (before ++ v :: after)).Alike strict
      (items read index (before ++ w :: after)) := by
  induction before generalizing index with
  | nil => exact ((h.under fun _ => rfl).map _).seq (.refl _)
  | cons first rest ih => exact (Checked.Alike.refl _).seq (ih (index + 1))

end Reader

end Reads

section Lists

open Json.Fields

variable {α : Type} {strict : Bool} {name : String} {change : Fields → Fields → Prop}
  {fields other : Fields}

/-- One object of the list under the name is changed. -/
inductive InList (name : String) (change : Fields → Fields → Prop) : Fields → Fields → Prop
  | item {before after : Fields} {first last : List Json} {fields other : Fields}
      (hname : name ∉ before.map Prod.fst) (h : change fields other) :
    InList name change (before ++ (name, .arr (first ++ .obj fields :: last)) :: after)
      (before ++ (name, .arr (first ++ .obj other :: last)) :: after)

theorem InList.agree (h : InList name change fields other) {keys : List Key}
    (hkeys : ∀ key ∈ keys, name ∉ key.names) : Key.Agree strict keys fields other := by
  cases h with
  | item _ _ =>
      intro key hkey
      refine .of_eq (Key.find?_congr fun also halso => ?_)
      have hne : also ≠ name := by
        rintro rfl
        exact hkeys key hkey halso
      rw [get?_append_cons_of_ne hne, get?_append_cons_of_ne hne]

/-- The list is read alike if the changed object is. -/
theorem InList.alike_orDefault (h : InList name change fields other) {read : Reader α}
    (hread : ∀ fields other, change fields other →
      (read (.obj fields)).Alike strict (read (.obj other))) (default : List α) :
    (fields.orDefault (.single name) default (Reader.list read)).Alike strict
      (other.orDefault (.single name) default (Reader.list read)) := by
  cases h with
  | @item before after first last fields other hname h =>
      have hfind (v : Json) :
          (Key.single name).find? (before ++ (name, v) :: after) = some (name, v) :=
        Key.find?_of_wire (get?_append_cons_self hname)
      rw [orDefault, orDefault, hfind, hfind]
      exact (Reader.alike_items (hread fields other h) first last 0).under fun _ => rfl

end Lists

/-- The fields of an object with triggers and actions, and of the objects in these two lists. -/
structure Layout where
  /-- The fields of the object other than the two lists. -/
  own : List Key
  trigger : Fields → List Key
  action : Fields → List Key

namespace Layout

variable {α β γ : Type} {strict : Bool} {layout : Layout} {v w : Json}

def keys (layout : Layout) : List Key :=
  .single "triggers" :: .single "actions" :: layout.own

/-- No object has two fields with a name in common. -/
structure IsSeparate (layout : Layout) : Prop where
  keys : Key.Separate layout.keys
  trigger : ∀ fields, Key.Separate (layout.trigger fields)
  action : ∀ fields, Key.Separate (layout.action fields)

/-- One edit of the object, of one of its triggers or of one of its actions; `edit` says what an
edit of an object with certain fields is. -/
inductive Changes (layout : Layout) (edit : List Key → Fields → Fields → Prop) : Json → Json → Prop
  | whole {fields other : Fields} (h : edit layout.keys fields other) :
    Changes layout edit (.obj fields) (.obj other)
  | trigger {fields other : Fields}
      (h : InList "triggers" (fun part => edit (layout.trigger part) part) fields other) :
    Changes layout edit (.obj fields) (.obj other)
  | action {fields other : Fields}
      (h : InList "actions" (fun part => edit (layout.action part) part) fields other) :
    Changes layout edit (.obj fields) (.obj other)

/-- The readers look at nothing but the fields of the layout. -/
structure Fits (layout : Layout) (read : Fields → Checked α) (trigger : Reader β)
    (action : Reader γ) : Prop where
  /-- The object is read through its own fields and its two lists. -/
  whole : ∀ strict fields other, Key.Agree strict layout.own fields other →
    (fields.orDefault (.single "triggers") [] (Reader.list trigger)).Alike strict
      (other.orDefault (.single "triggers") [] (Reader.list trigger)) →
    (fields.orDefault (.single "actions") [] (Reader.list action)).Alike strict
      (other.orDefault (.single "actions") [] (Reader.list action)) →
    (read fields).Alike strict (read other)
  trigger : ∀ strict fields other, Key.Agree strict (layout.trigger fields) fields other →
    (trigger (.obj fields)).Alike strict (trigger (.obj other))
  action : ∀ strict fields other, Key.Agree strict (layout.action fields) fields other →
    (action (.obj fields)).Alike strict (action (.obj other))

/-- What the reader makes of a value depends on its meaning only. After any number of edits that
leave the fields of every object where they were found, there is the same result with the same
issues in the same order; if fields are respelled as well, there is still the same result. -/
structure IsHiddenFrom (layout : Layout) (read : Reader α) : Prop where
  relaid : ∀ v w, Relation.ReflTransGen (layout.Changes Relaid) v w → read v = read w
  respelled : ∀ v w, Relation.ReflTransGen (layout.Changes Respelled) v w →
    ∀ a, read v = .valid a ↔ read w = .valid a

variable {read : Fields → Checked α} {trigger : Reader β} {action : Reader γ}

theorem IsSeparate.triggers_not_mem (h : layout.IsSeparate) :
    ∀ key ∈ .single "actions" :: layout.own, "triggers" ∉ key.names :=
  fun key hkey => (List.pairwise_cons.mp h.keys).1 key hkey "triggers" (.head _)

theorem IsSeparate.actions_not_mem (h : layout.IsSeparate) :
    ∀ key ∈ .single "triggers" :: layout.own, "actions" ∉ key.names := by
  have hothers := List.pairwise_cons.mp (List.pairwise_cons.mp h.keys).2
  exact List.forall_mem_cons.mpr
    ⟨by decide, fun key hkey => hothers.1 key hkey "actions" (.head _)⟩

/-- One edit that keeps the fields of the object it is made in. -/
theorem Fits.alike_of_changes (hfits : layout.Fits read trigger action)
    (hseparate : layout.IsSeparate) {edit : List Key → Fields → Fields → Prop}
    (hedit : ∀ {keys fields other}, Key.Separate keys → edit keys fields other →
      Key.Agree strict keys fields other) (stray : Flaw) (h : layout.Changes edit v w) :
    (Reader.record stray read v).Alike strict (Reader.record stray read w) := by
  cases h with
  | whole h =>
      have hagree := hedit hseparate.keys h
      exact hfits.whole strict _ _ (hagree.mono fun key hkey => .tail _ (.tail _ hkey))
        (hagree.alike_orDefault (.head _) [] _) (hagree.alike_orDefault (.tail _ (.head _)) [] _)
  | trigger h =>
      have hagree : Key.Agree strict (.single "actions" :: layout.own) _ _ :=
        h.agree hseparate.triggers_not_mem
      refine hfits.whole strict _ _ (hagree.mono fun key hkey => .tail _ hkey) ?_
        (hagree.alike_orDefault (.head _) [] _)
      exact h.alike_orDefault (fun part also hpart =>
        hfits.trigger strict part also (hedit (hseparate.trigger part) hpart)) []
  | action h =>
      have hagree : Key.Agree strict (.single "triggers" :: layout.own) _ _ :=
        h.agree hseparate.actions_not_mem
      refine hfits.whole strict _ _ (hagree.mono fun key hkey => .tail _ hkey)
        (hagree.alike_orDefault (.head _) [] _) ?_
      exact h.alike_orDefault (fun part also hpart =>
        hfits.action strict part also (hedit (hseparate.action part) hpart)) []

theorem Fits.isHiddenFrom (hfits : layout.Fits read trigger action)
    (hseparate : layout.IsSeparate) (stray : Flaw) :
    layout.IsHiddenFrom (Reader.record stray read) where
  relaid := by
    intro v w h
    induction h with
    | refl => rfl
    | tail _ hchange ih =>
        exact ih.trans (hfits.alike_of_changes hseparate (fun hkeys h => h.agree hkeys) stray
          hchange).eq
  respelled := by
    intro v w h a
    induction h with
    | refl => rfl
    | tail _ hchange ih =>
        exact ih.trans ((hfits.alike_of_changes hseparate (fun hkeys h => h.agree hkeys) stray
          hchange).eq_valid_iff a)

end Layout

end HomeAutomation
