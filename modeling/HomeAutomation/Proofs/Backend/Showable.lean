import HomeAutomation.Backend.Friendly
import Mathlib.Data.List.Forall2

/-!
# Messages that can be shown

Whatever the text of an error is, the message made of it can be shown to anybody
(`Friendly.IsShowable`): it is a text of moderate length without blanks around it, and no web
address stands in it. There are three fixed messages, and every other one is the text of the error
itself without the blanks (`Friendly.friendly_cases`). Either way the message is made into itself
again, so it does no harm to make it more than once (`friendly_showable`).
-/

namespace HomeAutomation

open Text

theorem Text.strip_strip (s : String) : strip (strip s) = strip s := by
  rw [strip, strip, String.toList_ofList, trim_trim]

namespace Friendly

/-- The character is the letter in either case; the capital of the long s is an S as well. -/
def IsLetter (letter c : Char) : Prop :=
  c.toLower = letter ∨ letter = 's' ∧ c = 'ſ'

/-- The characters are those of the word, each in either case. -/
def Spells (word part : List Char) : Prop :=
  List.Forall₂ IsLetter word part

/-- A part of the text is the beginning of a web address. -/
def HasAddress (s : List Char) : Prop :=
  ∃ part, part <:+: s ∧ (Spells "http://".toList part ∨ Spells "https://".toList part)

/-- The message can be shown to anybody. -/
structure IsShowable (s : String) : Prop where
  ne_empty : s ≠ ""
  strip_eq : strip s = s
  length_le : s.toList.length ≤ 200
  not_hasAddress : ¬ HasAddress s.toList

theorem isLetter_iff {letter c : Char} : isLetter letter c = true ↔ IsLetter letter c := by
  simp [isLetter, IsLetter]

theorem startsWith_iff {word s : List Char} :
    startsWith word s = true ↔ ∃ part, part <+: s ∧ Spells word part := by
  induction word generalizing s with
  | nil => exact iff_of_true (by simp [startsWith]) ⟨[], List.nil_prefix, .nil⟩
  | cons letter word ih =>
    cases s with
    | nil =>
      refine iff_of_false (by simp [startsWith]) ?_
      rintro ⟨part, hpart, hspells⟩
      obtain rfl := List.prefix_nil.mp hpart
      cases hspells
    | cons c s =>
      have hcons : startsWith (letter :: word) (c :: s) = true ↔
          IsLetter letter c ∧ startsWith word s = true := by
        simp only [startsWith, List.length_cons, List.zip_cons_cons, List.all_cons,
          Bool.and_eq_true, isLetter_iff, decide_eq_true_eq, Nat.add_le_add_iff_right]
        exact and_left_comm
      rw [hcons, ih]
      constructor
      · rintro ⟨hletter, part, hpart, hspells⟩
        exact ⟨c :: part, List.cons_prefix_cons.mpr ⟨rfl, hpart⟩, .cons hletter hspells⟩
      · rintro ⟨_, hpart, hspells⟩
        cases hspells with
        | cons hletter hrest =>
          obtain ⟨heq, hprefix⟩ := List.cons_prefix_cons.mp hpart
          exact ⟨heq ▸ hletter, _, hprefix, hrest⟩

theorem namesAddress_iff {s : List Char} : namesAddress s = true ↔ HasAddress s := by
  induction s with
  | nil =>
    refine iff_of_false (by simp [namesAddress]) ?_
    rintro ⟨part, hpart, hspells⟩
    obtain rfl := List.infix_nil.mp hpart
    rcases hspells with hspells | hspells <;> cases hspells
  | cons c s ih =>
    simp only [namesAddress, Bool.or_eq_true, startsWith_iff, ih, HasAddress, List.infix_cons_iff]
    constructor
    · rintro ((⟨part, hpart, hspells⟩ | ⟨part, hpart, hspells⟩) | ⟨part, hpart, hspells⟩)
      · exact ⟨part, .inl hpart, .inl hspells⟩
      · exact ⟨part, .inl hpart, .inr hspells⟩
      · exact ⟨part, .inr hpart, hspells⟩
    · rintro ⟨part, hpart | hpart, hspells⟩
      · exact .inl (hspells.imp (⟨part, hpart, ·⟩) (⟨part, hpart, ·⟩))
      · exact .inr ⟨part, hpart, hspells⟩

def fixedTexts : List String := [sessionText, networkText, otherText]

/-- A message is one of the fixed ones, or else the text of the error without the blanks around it,
if that can be shown. -/
theorem friendly_cases (message : String) :
    friendly message ∈ fixedTexts ∨
      friendly message = strip message ∧ IsShowable (strip message) := by
  unfold friendly
  dsimp only
  split
  case isTrue => exact .inl (by simp [fixedTexts])
  case isFalse =>
    split
    case isTrue => exact .inl (by simp [fixedTexts])
    case isFalse =>
      split
      case isFalse => exact .inl (by simp [fixedTexts])
      case isTrue hshown =>
        simp only [Bool.and_eq_true, Bool.not_eq_true', decide_eq_true_eq,
          String.isEmpty_eq_false_iff] at hshown
        obtain ⟨⟨hne, hlength⟩, haddress⟩ := hshown
        refine .inr ⟨rfl, hne, strip_strip message, hlength, ?_⟩
        rw [← namesAddress_iff, haddress]
        exact Bool.false_ne_true

theorem isShowable_of_mem_fixedTexts {s : String} (h : s ∈ fixedTexts) : IsShowable s := by
  have hshowable : ∀ s ∈ fixedTexts, s ≠ "" ∧ strip s = s ∧ s.toList.length ≤ 200 ∧
      ¬ namesAddress s.toList = true := by
    decide +kernel
  obtain ⟨hne, hstrip, hlength, haddress⟩ := hshowable s h
  exact ⟨hne, hstrip, hlength, fun hhas => haddress (namesAddress_iff.mpr hhas)⟩

theorem friendly_of_mem_fixedTexts {s : String} (h : s ∈ fixedTexts) : friendly s = s := by
  revert s
  decide +kernel

end Friendly

open Friendly

/-- Blanks around the text of an error do not matter. -/
theorem friendly_strip (message : String) : friendly (strip message) = friendly message := by
  simp only [friendly, strip_strip]

/-- Every message that is made of the text of an error can be shown, and is made into itself. -/
theorem friendly_showable (message : String) :
    IsShowable (friendly message) ∧ friendly (friendly message) = friendly message := by
  rcases friendly_cases message with hfixed | ⟨hsame, hshowable⟩
  · exact ⟨isShowable_of_mem_fixedTexts hfixed, friendly_of_mem_fixedTexts hfixed⟩
  · refine ⟨hsame ▸ hshowable, ?_⟩
    calc friendly (friendly message)
      _ = friendly (strip message) := by rw [hsame]
      _ = friendly message := friendly_strip message

end HomeAutomation
