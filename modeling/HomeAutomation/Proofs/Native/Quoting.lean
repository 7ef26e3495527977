import HomeAutomation.Proofs.Native.Template
import HomeAutomation.Proofs.Text.Literal

/-!
# Names of attributes in templates

A template is an expression in which the name of an attribute is meant to be a string literal, at
two places (`Escapes.Quotes`). But the name is put between the double quotes as it is. So it is
quoted exactly if it is plain in the language of the templates (`quotes_template_iff`); a double
quote in it ends the literal early, and the rest of the name becomes part of the expression.
-/

namespace HomeAutomation

open Text

namespace Text.Escapes

/-- The template has two literals. Each stands between `attributes[` and `]` and denotes the
name. -/
def Quotes (escapes : Escapes) (name template : String) : Prop :=
  ∃ front middle back first second,
    SplitsInto template.toList (front ++ "attributes[".toList)
      [(first, ']' :: (middle ++ "attributes[".toList)), (second, ']' :: back)] ∧
    escapes.Reads first name.toList ∧ escapes.Reads second name.toList

end Text.Escapes

namespace DeltaTest

def codeBefore (direction : Direction) : List Char :=
  (opening direction).toList ++ "attributes[".toList

def codeBetween (direction : Direction) : List Char :=
  ']' :: ((between direction).toList ++ "attributes[".toList)

def codeBehind (threshold : String) : List Char :=
  ']' :: (closing.toList ++ (threshold.toList ++ " \x7d\x7d".toList))

theorem quote_not_mem_codeBefore (direction : Direction) : '"' ∉ codeBefore direction := by
  cases direction with
  | increase => decide
  | decrease => decide

theorem quote_not_mem_codeBetween (direction : Direction) : '"' ∉ codeBetween direction := by
  cases direction with
  | increase => decide
  | decrease => decide

theorem backslash_not_mem_codeBetween (direction : Direction) :
    '\\' ∉ codeBetween direction := by
  cases direction with
  | increase => decide
  | decrease => decide

theorem quote_not_mem_codeBehind {threshold : String} (h : IsThreshold threshold) :
    '"' ∉ codeBehind threshold := by
  rcases h with rfl | rfl
  · decide
  · decide

theorem toList_template {test : DeltaTest} (h : test.attr ≠ stateName) :
    test.template.toList =
      embedded (codeBefore test.direction) (codeBetween test.direction)
        (codeBehind (thresholdText test.attr)) test.attr.toList := by
  have hopen : "attributes[\"".toList = "attributes[".toList ++ ['"'] := rfl
  have hclose : "\"]".toList = ['"', ']'] := rfl
  rw [template_eq_written, written, path, if_neg h]
  simp only [String.toList_append, hopen, hclose, embedded, codeBefore, codeBetween, codeBehind,
    List.append_assoc, List.cons_append, List.nil_append]

theorem quotes_template_iff (escapes : Escapes) (test : DeltaTest) (h : test.attr ≠ stateName) :
    escapes.Quotes test.attr test.template ↔ escapes.IsPlain test.attr.toList := by
  have hbefore := quote_not_mem_codeBefore test.direction
  have hbetween := quote_not_mem_codeBetween test.direction
  have hbackslash := backslash_not_mem_codeBetween test.direction
  have hbehind := quote_not_mem_codeBehind (isThreshold_thresholdText test.attr)
  unfold Escapes.Quotes
  rw [toList_template h]
  constructor
  · rintro ⟨front, middle, back, first, second, hsplit, hreads, -⟩
    have hlast : (']' :: (middle ++ "attributes[".toList)).getLast? = some '[' := by
      have hword : "attributes[".toList = "attributes".toList ++ ['['] := rfl
      rw [hword, ← List.append_assoc, ← List.cons_append, List.getLast?_concat]
    refine Escapes.isPlain_of_splitsInto hbefore hbetween hbackslash hsplit ?_ hreads
    rw [hlast]
    decide
  · intro hplain
    obtain ⟨hsplit, hreads⟩ := Escapes.splitsInto_embedded hbefore hbetween hbehind hplain
    exact ⟨_, _, _, _, _, hsplit, hreads, hreads⟩

end DeltaTest

namespace Trigger

/-- The name of an attribute is quoted in the template of a delta trigger exactly if it holds no
double quote and no escape. -/
theorem template_quotes_iff (escapes : Escapes) (entity : String) (direction : Direction)
    {attr : String} (hempty : attr ≠ "") (hstate : attr ≠ "state") :
    ∃ template, (delta entity attr direction).template? = some template ∧
      (escapes.Quotes attr template ↔ escapes.IsPlain attr.toList) := by
  have hwatched : watched attr = attr := by simp [watched, hempty]
  refine ⟨_, template?_delta entity attr direction, ?_⟩
  rw [hwatched]
  exact DeltaTest.quotes_template_iff escapes ⟨direction, attr⟩ hstate

/-- A backslash in front of an o is kept, so it does no harm in a name. -/
theorem template_quotes_inOut :
    "in\\out" ≠ "" ∧ "in\\out" ≠ "state" ∧
      ∃ template, (delta "sensor.power" "in\\out" .increase).template? = some template ∧
        Escapes.common.Quotes "in\\out" template := by
  have hempty : "in\\out" ≠ "" := by decide
  have hstate : "in\\out" ≠ "state" := by decide
  have hout : Escapes.common.KeepsAll "out".toList := Escapes.keepsAll_of_not_mem (by decide)
  have hslash : Escapes.common.KeepsAll "\\out".toList := hout.cons fun _ => rfl
  have hword : Escapes.common.KeepsAll "n\\out".toList := hslash.cons (absurd · (by decide))
  have hname : Escapes.common.KeepsAll "in\\out".toList := hword.cons (absurd · (by decide))
  obtain ⟨template, htemplate, hiff⟩ :=
    template_quotes_iff .common "sensor.power" .increase hempty hstate
  exact ⟨hempty, hstate, template, htemplate, hiff.mpr ⟨by decide, hname⟩⟩

/-- The literal ends at the inch mark, and the rest of the name is no part of it. -/
theorem not_quotes_template_speaker :
    ∃ template, (delta "media_player.hall" "12\" volume" .increase).template? = some template ∧
      ¬ Escapes.common.Quotes "12\" volume" template := by
  refine ⟨_, template?_delta "media_player.hall" "12\" volume" .increase, ?_⟩
  have hwatched : watched "12\" volume" = "12\" volume" := by decide
  rw [hwatched]
  intro hquotes
  have hplain :=
    (DeltaTest.quotes_template_iff .common ⟨.increase, "12\" volume"⟩ (by decide)).mp hquotes
  exact absurd hplain.1 (by decide)

end Trigger

end HomeAutomation
