import HomeAutomation.Proofs.Backend.Key
import HomeAutomation.Proofs.Text.Layer
import HomeAutomation.Settings

/-!
# When a value of the environment is clean

A value is cleaned of its layers once: blanks outside, double quotes under them, single quotes
inside (`layers`). That is enough for a value in exactly these layers. Double quotes under single
quotes, and blanks under quotes, are still there afterwards, and of a pair of quotes with nothing in
it an empty text is left. So what is left is clean, and cleaning it again changes nothing, exactly
when there is no value (`IsVoid`) or the value is something clean in layers (`Encloses`). The
settings keep addresses, token and secret as they were cleaned.
-/

namespace HomeAutomation.Settings

open Text

/-- What is taken away around a value, from the outside to the inside. -/
def layers : List (Char → Bool) :=
  [isBlank, (· == '"'), (· == '\'')]

/-- A blank or a quote. -/
def isPadding (c : Char) : Bool :=
  layers.any (· c)

/-- There is something in the text, and neither a blank nor a quote at its ends. -/
structure IsClean (s : String) : Prop where
  ne_empty : s ≠ ""
  isBare : IsBare isPadding s.toList

instance (s : String) : Decidable (IsClean s) :=
  decidable_of_iff (s ≠ "" ∧ IsBare isPadding s.toList)
    ⟨fun h => ⟨h.1, h.2⟩, fun h => ⟨h.ne_empty, h.isBare⟩⟩

/-- The text is an expression that was pasted in place of its value. -/
def IsPasted (s : String) : Prop :=
  ∃ mark ∈ pastedMarks, mark <:+: s.toList

/-- There is no value: nothing is given, or an empty text, or a pasted expression. -/
def IsVoid : Option String → Prop
  | none => True
  | some s => s = "" ∨ IsPasted s

/-- The value is the core in layers. -/
def Encloses (value : Option String) (core : String) : Prop :=
  ∃ s, value = some s ∧ Wraps layers core.toList s.toList

/-- The variables of the addresses, the token and the secret with what is kept of them; an empty
text stands for nothing. -/
def kept (settings : Settings) : List (String × String) :=
  [("PLATFORM_API_URL", settings.platformUrl.getD ""), ("HA_URL", settings.hubUrl.getD ""),
    ("HA_CLOUD_URL", settings.hubCloudUrl.getD ""), ("HA_TOKEN", settings.hubToken),
    ("AGENT_SECRET", settings.secret)]

section Value

variable {value : Option String} {s t core : String}

theorem isVoid_some : IsVoid (some s) ↔ s = "" ∨ IsPasted s := Iff.rfl

theorem unquoted_eq_trimEach (s : List Char) : unquoted s = trimEach layers s := rfl

theorem beq_eq_false_of_class {p : Char → Bool} {q : Char} (hq : p q = false) :
    ∀ c, p c = true → (c == q) = false := by
  intro c hc
  rw [beq_eq_false_iff_ne]
  rintro rfl
  rw [hq] at hc
  cases hc

theorem layers_pairwise : layers.Pairwise fun p q => ∀ c, p c = true → q c = false := by
  refine .cons ?_ (.cons ?_ (.cons (by simp) .nil))
  · exact List.forall_mem_cons.mpr ⟨beq_eq_false_of_class (by decide),
      List.forall_mem_singleton.mpr (beq_eq_false_of_class (by decide))⟩
  · exact List.forall_mem_singleton.mpr (beq_eq_false_of_class (by decide))

theorem isBare_isPadding_iff {s : List Char} :
    IsBare isPadding s ↔ ∀ p ∈ layers, IsBare p s :=
  isBare_any_iff

theorem mark_isBare :
    ∀ mark ∈ pastedMarks, (∀ p ∈ layers, IsBare p mark) ∧ mark ≠ [] := by
  decide

/-- A pasted expression is recognized alike before and after its layers are taken away. -/
theorem isPasted_unquoted_iff : IsPasted (String.ofList (unquoted s.toList)) ↔ IsPasted s := by
  rw [IsPasted, IsPasted, String.toList_ofList, unquoted_eq_trimEach]
  refine exists_congr fun mark => and_congr_right fun hmark => ?_
  obtain ⟨hbare, hne⟩ := mark_isBare mark hmark
  exact infix_trimEach_iff hbare hne

theorem any_occursIn_iff :
    pastedMarks.any (occursIn · (unquoted s.toList)) = true ↔ IsPasted s := by
  rw [← isPasted_unquoted_iff, IsPasted, String.toList_ofList, List.any_eq_true]
  simp only [occursIn_iff]

theorem cleaned_eq_none_iff : cleaned value = none ↔ IsVoid value := by
  cases value with
  | none => exact iff_of_true rfl trivial
  | some s =>
    by_cases hs : s = ""
    · rw [hs]
      exact iff_of_true rfl (isVoid_some.mpr (.inl rfl))
    · rw [isVoid_some, ← any_occursIn_iff, cleaned, nonEmpty?_some hs, Option.bind_some]
      simp [hs]

theorem cleaned_of_not_isVoid (h : ¬ IsVoid (some s)) :
    cleaned (some s) = some (String.ofList (unquoted s.toList)) := by
  rw [isVoid_some, not_or] at h
  obtain ⟨hs, hpasted⟩ := h
  rw [cleaned, nonEmpty?_some hs, Option.bind_some]
  exact if_neg fun hany => hpasted (any_occursIn_iff.mp hany)

theorem not_isVoid_of_cleaned_eq_some (h : cleaned value = some t) : ¬ IsVoid value := by
  rw [← cleaned_eq_none_iff, h]
  exact Option.some_ne_none t

theorem exists_of_cleaned_eq_some (h : cleaned value = some t) :
    ∃ s, value = some s ∧ ¬ IsVoid (some s) ∧ t = String.ofList (unquoted s.toList) := by
  have hvoid := not_isVoid_of_cleaned_eq_some h
  cases value with
  | none => exact absurd trivial hvoid
  | some s =>
    rw [cleaned_of_not_isVoid hvoid] at h
    exact ⟨s, rfl, hvoid, (Option.some.inj h).symm⟩

/-- Whatever is left, the value is it in layers: nothing else is lost. -/
theorem encloses_of_cleaned_eq_some (h : cleaned value = some t) : Encloses value t := by
  obtain ⟨s, rfl, -, rfl⟩ := exists_of_cleaned_eq_some h
  refine ⟨s, rfl, ?_⟩
  rw [String.toList_ofList, unquoted_eq_trimEach]
  exact wraps_trimEach layers s.toList

theorem cleaned_of_encloses (h : Encloses value core) (hvoid : ¬ IsVoid value)
    (hcore : IsBare isPadding core.toList) : cleaned value = some core := by
  obtain ⟨s, rfl, hwraps⟩ := h
  have hcore' := isBare_isPadding_iff.mp hcore
  rw [cleaned_of_not_isVoid hvoid, unquoted_eq_trimEach,
    (trimEach_eq_iff layers_pairwise hcore').mpr hwraps, String.ofList_toList]

/-- What is left is as it should be exactly when there is nothing, or the value is something as it
should be in layers. -/
theorem cleaned_forall_iff {P : String → Prop}
    (hP : ∀ core, P core → IsBare isPadding core.toList) :
    (∀ t, cleaned value = some t → P t) ↔
      IsVoid value ∨ ∃ core, P core ∧ Encloses value core := by
  constructor
  · intro h
    cases hcleaned : cleaned value with
    | none => exact .inl (cleaned_eq_none_iff.mp hcleaned)
    | some t => exact .inr ⟨t, h t hcleaned, encloses_of_cleaned_eq_some hcleaned⟩
  · intro h t ht
    have hvoid := not_isVoid_of_cleaned_eq_some ht
    obtain ⟨core, hcore, hencloses⟩ := h.resolve_left hvoid
    rw [cleaned_of_encloses hencloses hvoid (hP core hcore), Option.some.injEq] at ht
    exact ht ▸ hcore

/-- A text that is no pasted expression is cleaned into itself exactly when it is clean. -/
theorem cleaned_eq_self_iff (hpasted : ¬ IsPasted t) : cleaned (some t) = some t ↔ IsClean t := by
  by_cases ht : t = ""
  · rw [cleaned_eq_none_iff.mpr (isVoid_some.mpr (.inl ht))]
    constructor
    · intro h
      cases h
    · exact fun h => absurd ht h.ne_empty
  · have hvoid : ¬ IsVoid (some t) := by
      rw [isVoid_some, not_or]
      exact ⟨ht, hpasted⟩
    rw [cleaned_of_not_isVoid hvoid, Option.some.injEq, ← String.toList_inj, String.toList_ofList,
      unquoted_eq_trimEach, trimEach_eq_self_iff, ← isBare_isPadding_iff]
    exact ⟨fun h => ⟨ht, h⟩, IsClean.isBare⟩

/-- Cleaning again changes nothing exactly when what is left is clean. -/
theorem cleaned_cleaned_eq_iff :
    cleaned (cleaned value) = cleaned value ↔ ∀ t, cleaned value = some t → IsClean t := by
  cases hcleaned : cleaned value with
  | none => exact iff_of_true rfl (by simp)
  | some t =>
    obtain ⟨s, rfl, hvoid, rfl⟩ := exists_of_cleaned_eq_some hcleaned
    have hpasted : ¬ IsPasted (String.ofList (unquoted s.toList)) := by
      rw [isPasted_unquoted_iff]
      exact fun h => hvoid (isVoid_some.mpr (.inr h))
    rw [cleaned_eq_self_iff hpasted]
    simp

end Value

section Load

variable {env : Environment}

theorem eq_cleaned_of_mem_kept {entry : String × String} (h : entry ∈ (load env).kept) :
    entry.2 = (cleaned (env entry.1)).getD "" := by
  simp only [kept, load, List.mem_cons, List.not_mem_nil, or_false] at h
  rcases h with rfl | rfl | rfl | rfl | rfl <;> rfl

/-- An empty text is bare, so nothing kept and something bare kept are one case. -/
theorem isBare_getD_cleaned_iff {value : Option String} :
    IsBare isPadding ((cleaned value).getD "").toList ↔
      ∀ t, cleaned value = some t → IsBare isPadding t.toList := by
  cases cleaned value with
  | none => simpa using isBare_of_forall (by simp)
  | some t => simp

end Load

/-- Cleaning once is enough for a value exactly when there is none or it is something clean in
layers: then cleaning again changes nothing, and what is left is nothing or clean. An address, the
token or the secret is kept without blanks and quotes around it exactly when there is no value, or
the value is something, or nothing, in layers. -/
theorem cleaned_settled_iff (env : Environment) (value : Option String) :
    (cleaned (cleaned value) = cleaned value ↔
        IsVoid value ∨ ∃ core, IsClean core ∧ Encloses value core) ∧
      ((∀ t, cleaned value = some t → IsClean t) ↔
        IsVoid value ∨ ∃ core, IsClean core ∧ Encloses value core) ∧
      ∀ entry ∈ (load env).kept, IsBare isPadding entry.2.toList ↔
        IsVoid (env entry.1) ∨
          ∃ core : String, IsBare isPadding core.toList ∧ Encloses (env entry.1) core := by
  have hclean : (∀ t, cleaned value = some t → IsClean t) ↔
      IsVoid value ∨ ∃ core, IsClean core ∧ Encloses value core :=
    cleaned_forall_iff fun _ => IsClean.isBare
  refine ⟨cleaned_cleaned_eq_iff.trans hclean, hclean, fun entry hentry => ?_⟩
  rw [eq_cleaned_of_mem_kept hentry, isBare_getD_cleaned_iff]
  exact cleaned_forall_iff fun _ h => h

/-- A token with all its layers is cleaned at once. -/
theorem cleaned_settled_tokenInLayers :
    let value := some " \"'token'\" "
    let env : Environment := fun name => if name = "HA_TOKEN" then value else none
    cleaned (cleaned value) = cleaned value ∧ (∀ t, cleaned value = some t → IsClean t) ∧
      ("HA_TOKEN", "token") ∈ (load env).kept ∧ IsBare isPadding "token".toList := by
  intro value env
  have hclean : IsClean "token" := by decide
  have hone : ∀ {p : Char → Bool} {c : Char}, p c = true → ∀ d ∈ [c], p d = true :=
    fun h => List.forall_mem_singleton.mpr h
  have hlayers : " \"'token'\" ".toList =
      [' '] ++ (['"'] ++ (['\''] ++ ("token".toList ++ ['\'']) ++ ['"']) ++ [' ']) := by decide
  have hencloses : Encloses value "token" := by
    refine ⟨_, rfl, ?_⟩
    rw [hlayers]
    exact .layer (hone rfl) (.layer (hone rfl) (.layer (hone rfl) (.core _) (hone rfl)) (hone rfl))
      (hone rfl)
  have hkept : ("HA_TOKEN", "token") ∈ (load env).kept := by decide
  obtain ⟨hagain, hleft, hload⟩ := cleaned_settled_iff env value
  exact ⟨hagain.mpr (.inr ⟨"token", hclean, hencloses⟩),
    hleft.mpr (.inr ⟨"token", hclean, hencloses⟩), hkept,
    (hload _ hkept).mpr (.inr ⟨"token", hclean.isBare, hencloses⟩)⟩

/-- Double quotes under single quotes and blanks under quotes are kept, and of two quotes an empty
text is left; cleaned again, it would be none. -/
theorem not_settled_otherLayers :
    let quotes := some "'\"token\"'"
    let blanks := some "\" token \""
    let nothing := some "\"\""
    (cleaned (cleaned quotes) ≠ cleaned quotes ∧ (load fun _ => quotes).hubToken = "\"token\"") ∧
      (cleaned (cleaned blanks) ≠ cleaned blanks ∧ (load fun _ => blanks).secret = " token ") ∧
      (cleaned (cleaned nothing) ≠ cleaned nothing ∧ (load fun _ => nothing).hubUrl = some "") ∧
      ∀ left ∈ ["\"token\"", " token ", ""], ¬ IsClean left := by
  decide

end HomeAutomation.Settings
