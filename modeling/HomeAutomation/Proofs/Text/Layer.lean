import HomeAutomation.Proofs.Text.Numeral
import Mathlib.Data.List.TakeWhile

/-!
# Texts in layers

`trimEach ps` trims one class of characters after another off both ends of a text, each class once.
`Wraps ps core s` says that the text `s` is the core in layers of these classes, the first class
outermost. What trimming leaves is always the core of such layers (`wraps_trimEach`), but it need
not be bare of the classes: a character under a layer that is trimmed later is not reached. If no
character belongs to two classes, a bare core is left exactly of the texts that are this core in
layers (`trimEach_eq_iff`). Trimming leaves a text as it is only if it is bare already
(`trimEach_eq_self_iff`).
-/

namespace HomeAutomation.Text

/-- The text neither starts nor ends in the class. -/
structure IsBare (p : Char → Bool) (s : List Char) : Prop where
  head : ∀ c ∈ s.head?, p c = false
  last : ∀ c ∈ s.getLast?, p c = false

theorem isBare_iff_all {p : Char → Bool} {s : List Char} :
    IsBare p s ↔ s.head?.all (!p ·) = true ∧ s.getLast?.all (!p ·) = true := by
  simp only [Option.all_eq_true, Bool.not_eq_true']
  exact ⟨fun h => ⟨h.head, h.last⟩, fun h => ⟨h.1, h.2⟩⟩

-- decided at the two ends; the quantifiers of the definition range over all characters
instance (p : Char → Bool) (s : List Char) : Decidable (IsBare p s) :=
  decidable_of_iff _ isBare_iff_all.symm

/-- Drops the characters of each class from both ends, one class after the other. -/
def trimEach : List (Char → Bool) → List Char → List Char
  | [], s => s
  | p :: ps, s => trimEach ps (trim p s)

/-- The text is the core in layers of the classes, the first class outermost. A layer may be empty
on either side. -/
inductive Wraps : List (Char → Bool) → List Char → List Char → Prop
  | core (core : List Char) : Wraps [] core core
  | layer {p : Char → Bool} {ps : List (Char → Bool)} {core s before after : List Char}
    (hbefore : ∀ c ∈ before, p c = true) (h : Wraps ps core s)
    (hafter : ∀ c ∈ after, p c = true) : Wraps (p :: ps) core (before ++ (s ++ after))

section Class

variable {p : Char → Bool} {s t before core part after : List Char}

theorem isBare_of_forall (h : ∀ c ∈ s, p c = false) : IsBare p s :=
  ⟨fun c hc => h c (List.mem_of_head? hc), fun c hc => h c (List.mem_of_getLast? hc)⟩

theorem IsBare.append (hs : IsBare p s) (ht : IsBare p t) : IsBare p (s ++ t) := by
  constructor
  · intro c hc
    rw [List.head?_append, Option.mem_def, Option.or_eq_some_iff] at hc
    rcases hc with hc | ⟨-, hc⟩
    · exact hs.head c hc
    · exact ht.head c hc
  · intro c hc
    rw [List.getLast?_append, Option.mem_def, Option.or_eq_some_iff] at hc
    rcases hc with hc | ⟨-, hc⟩
    · exact ht.last c hc
    · exact hs.last c hc

theorem isBare_any_iff {ps : List (Char → Bool)} :
    IsBare (fun c => ps.any (· c)) s ↔ ∀ p ∈ ps, IsBare p s := by
  have hany : ∀ c, ps.any (· c) = false ↔ ∀ p ∈ ps, p c = false := by simp
  constructor
  · intro h p hp
    exact ⟨fun c hc => (hany c).mp (h.head c hc) p hp, fun c hc => (hany c).mp (h.last c hc) p hp⟩
  · intro h
    exact ⟨fun c hc => (hany c).mpr fun p hp => (h p hp).head c hc,
      fun c hc => (hany c).mpr fun p hp => (h p hp).last c hc⟩

theorem isBare_trim (p : Char → Bool) (s : List Char) : IsBare p (trim p s) :=
  ⟨fun _ => head?_trim, fun _ => getLast?_trim⟩

theorem trim_isInfix (p : Char → Bool) (s : List Char) : trim p s <:+: s := by
  obtain ⟨before, after, hs, -, -⟩ := exists_append_trim p s
  exact ⟨before, after, by rw [List.append_assoc, ← hs]⟩

theorem dropWhile_append_of_isBare (hcore : IsBare p core) (hne : core ≠ []) :
    (before ++ (core ++ after)).dropWhile p = before.dropWhile p ++ (core ++ after) := by
  have hkept : (core ++ after).dropWhile p = core ++ after := by
    obtain ⟨d, rest, rfl⟩ := List.exists_cons_of_ne_nil hne
    exact dropWhile_eq_self fun c hc => hcore.head c hc
  rw [List.dropWhile_append]
  split
  case isTrue h => rw [hkept, List.isEmpty_iff.mp h, List.nil_append]
  case isFalse => rfl

theorem trim_append_of_isBare (hcore : IsBare p core) (hne : core ≠ []) :
    trim p (before ++ (core ++ after)) = before.dropWhile p ++ (core ++ trimEnd p after) := by
  have hreverse : IsBare p core.reverse :=
    ⟨fun c hc => hcore.last c (by rwa [List.head?_reverse] at hc),
      fun c hc => hcore.head c (by rwa [List.getLast?_reverse] at hc)⟩
  have hend : trimEnd p (before.dropWhile p ++ (core ++ after)) =
      before.dropWhile p ++ (core ++ trimEnd p after) := by
    rw [trimEnd, List.reverse_append, List.reverse_append, List.append_assoc,
      dropWhile_append_of_isBare hreverse (by simpa using hne)]
    simp [trimEnd]
  rw [trim, dropWhile_append_of_isBare hcore hne, hend]

/-- A layer of the class around a bare core is trimmed off. -/
theorem trim_layer (hbefore : ∀ c ∈ before, p c = true) (hcore : IsBare p core)
    (hafter : ∀ c ∈ after, p c = true) : trim p (before ++ (core ++ after)) = core := by
  by_cases hne : core = []
  · subst hne
    exact trim_append hbefore (by simp) hafter
  · have hend : trimEnd p after = [] := by
      rw [trimEnd, List.reverse_eq_nil_iff, List.dropWhile_eq_nil_iff]
      exact fun c hc => hafter c (List.mem_reverse.mp hc)
    rw [trim_append_of_isBare hcore hne, List.dropWhile_eq_nil_iff.mpr hbefore, hend,
      List.nil_append, List.append_nil]

theorem trim_eq_self_iff : trim p s = s ↔ IsBare p s := by
  constructor
  · intro h
    rw [← h]
    exact isBare_trim p s
  · intro h
    have hnil : ∀ c ∈ ([] : List Char), p c = true := by simp
    have hlayer := trim_layer hnil h hnil
    rwa [List.nil_append, List.append_nil] at hlayer

/-- Trimming neither removes nor makes a part that is bare. -/
theorem infix_trim_iff (hpart : IsBare p part) (hne : part ≠ []) :
    part <:+: trim p s ↔ part <:+: s := by
  constructor
  · exact fun h => h.trans (trim_isInfix p s)
  · rintro ⟨before, after, rfl⟩
    rw [List.append_assoc, trim_append_of_isBare hpart hne, ← List.append_assoc]
    exact ⟨_, _, rfl⟩

end Class

section Layers

variable {ps : List (Char → Bool)} {s core part : List Char}

theorem trimEach_isInfix (ps : List (Char → Bool)) (s : List Char) : trimEach ps s <:+: s := by
  induction ps generalizing s with
  | nil => exact List.infix_rfl
  | cons p ps ih => exact (ih (trim p s)).trans (trim_isInfix p s)

theorem trimEach_eq_self_iff : trimEach ps s = s ↔ ∀ p ∈ ps, IsBare p s := by
  induction ps with
  | nil => simp [trimEach]
  | cons p ps ih =>
    rw [List.forall_mem_cons, ← ih, ← trim_eq_self_iff, trimEach]
    constructor
    · intro h
      -- what is trimmed first is not put back later
      have hinfix : s <:+: trim p s := by
        have := trimEach_isInfix ps (trim p s)
        rwa [h] at this
      have htrim : trim p s = s :=
        (trim_isInfix p s).eq_of_length_le hinfix.length_le
      rw [htrim] at h
      exact ⟨htrim, h⟩
    · rintro ⟨htrim, hrest⟩
      rw [htrim, hrest]

theorem infix_trimEach_iff (hpart : ∀ p ∈ ps, IsBare p part) (hne : part ≠ []) :
    part <:+: trimEach ps s ↔ part <:+: s := by
  induction ps generalizing s with
  | nil => rfl
  | cons p ps ih =>
    obtain ⟨hp, hps⟩ := List.forall_mem_cons.mp hpart
    rw [trimEach, ih hps, infix_trim_iff hp hne]

/-- What is trimmed off a text are layers around what is left. -/
theorem wraps_trimEach (ps : List (Char → Bool)) (s : List Char) : Wraps ps (trimEach ps s) s := by
  induction ps generalizing s with
  | nil => exact .core s
  | cons p ps ih =>
    obtain ⟨before, after, hs, hbefore, hafter⟩ := exists_append_trim p s
    have hlayer := Wraps.layer hbefore (ih (trim p s)) hafter
    rwa [← hs] at hlayer

/-- Layers of other classes keep a text bare of a class. -/
theorem Wraps.isBare {p : Char → Bool} (h : Wraps ps core s)
    (hps : ∀ q ∈ ps, ∀ c, p c = true → q c = false) (hcore : IsBare p core) : IsBare p s := by
  induction h with
  | core => exact hcore
  | @layer q ps core s before after hbefore _ hafter ih =>
    obtain ⟨hq, hps⟩ := List.forall_mem_cons.mp hps
    have hother : ∀ c, q c = true → p c = false := by
      intro c hc
      rw [← Bool.not_eq_true]
      intro hp
      rw [hq c hp] at hc
      cases hc
    exact (isBare_of_forall fun c hc => hother c (hbefore c hc)).append
      ((ih hps hcore).append (isBare_of_forall fun c hc => hother c (hafter c hc)))

/-- A bare core is what trimming leaves of a text exactly when the text is the core in layers. -/
theorem trimEach_eq_iff (hps : ps.Pairwise fun p q => ∀ c, p c = true → q c = false)
    (hcore : ∀ p ∈ ps, IsBare p core) : trimEach ps s = core ↔ Wraps ps core s := by
  constructor
  · rintro rfl
    exact wraps_trimEach ps s
  · intro h
    induction h with
    | core => rfl
    | layer hbefore h hafter ih =>
      obtain ⟨hp, hps⟩ := List.pairwise_cons.mp hps
      obtain ⟨hcorep, hcore⟩ := List.forall_mem_cons.mp hcore
      rw [trimEach, trim_layer hbefore (h.isBare hp hcorep) hafter, ih hps hcore]

end Layers

end HomeAutomation.Text
