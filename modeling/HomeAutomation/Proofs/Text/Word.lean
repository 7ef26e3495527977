import HomeAutomation.Json.Display
import HomeAutomation.Proofs.Text.Numeral
import HomeAutomation.Text.Lowercase

/-!
# Words without blanks around them and in lower case

A character that is no blank and has no other lower case form is kept when a text is stripped and
put into lower case (`mem_lower_strip`), and a text of such characters is kept as a whole
(`lower_strip_of_isKept`). Numbers are texts of such characters, so what they look like can be told
from the word they become.
-/

namespace HomeAutomation.Text

/-- The character is no blank, and it is its own lower case form wherever it stands. -/
def isKept (c : Char) : Bool :=
  !isBlank c && c != capitalSigma && lowerChar c == [c]

theorem isKept_iff {c : Char} :
    isKept c = true ↔ (isBlank c = false ∧ c ≠ capitalSigma) ∧ lowerChar c = [c] := by
  simp [isKept]

section Keeping

variable {c : Char} {s : List Char}

theorem mem_trim {p : Char → Bool} (hmem : c ∈ s) (hc : p c = false) : c ∈ trim p s := by
  obtain ⟨before, after, hsplit, hbefore, hafter⟩ := exists_append_trim p s
  rw [hsplit, List.mem_append, List.mem_append] at hmem
  rcases hmem with hmem | hmem | hmem
  · rw [hbefore c hmem] at hc
    cases hc
  · exact hmem
  · rw [hafter c hmem] at hc
    cases hc

theorem mem_lowerFrom (hmem : c ∈ s) (hc : isKept c = true) (afterCased : Bool) :
    c ∈ lowerFrom afterCased s := by
  obtain ⟨⟨-, hsigma⟩, hlower⟩ := isKept_iff.mp hc
  induction s generalizing afterCased with
  | nil => cases hmem
  | cons d s ih =>
    rw [lowerFrom]
    rcases List.mem_cons.mp hmem with rfl | hmem
    · simp [hsigma, hlower]
    · exact List.mem_append_right _ (ih hmem _)

theorem lowerFrom_of_isKept (h : ∀ c ∈ s, isKept c = true) (afterCased : Bool) :
    lowerFrom afterCased s = s := by
  induction s generalizing afterCased with
  | nil => rfl
  | cons c s ih =>
    obtain ⟨hc, hs⟩ := List.forall_mem_cons.mp h
    obtain ⟨⟨-, hsigma⟩, hlower⟩ := isKept_iff.mp hc
    rw [lowerFrom, ih hs]
    simp [hsigma, hlower]

theorem mem_lower_strip {s : String} (hmem : c ∈ s.toList) (hc : isKept c = true) :
    c ∈ (lower (strip s)).toList := by
  rw [lower, strip, String.toList_ofList, String.toList_ofList]
  exact mem_lowerFrom (mem_trim hmem (isKept_iff.mp hc).1.1) hc false

theorem lower_strip_of_isKept {s : String} (h : ∀ c ∈ s.toList, isKept c = true) :
    lower (strip s) = s := by
  have hnil : ∀ c ∈ ([] : List Char), isBlank c = true := by simp
  have hstrip := trim_append hnil (fun c hc => (isKept_iff.mp (h c hc)).1.1) hnil
  rw [List.nil_append, List.append_nil] at hstrip
  rw [lower, strip, String.toList_ofList, hstrip, lowerFrom_of_isKept h, String.ofList_toList]

end Keeping

section Number

theorem isKept_of_isDigit {c : Char} (h : c.isDigit = true) : isKept c = true := by
  have hkept : ∀ d < 10, isKept (Nat.digitChar d) = true := by decide
  obtain ⟨hd, hc⟩ := asciiDigit?_eq_some_iff.mp (asciiDigit?_of_isDigit h)
  rw [eq_digitChar hd hc]
  exact hkept _ hd

theorem toList_toString (n : Int) : (toString n).toList =
    if 0 ≤ n then natDigits n.toNat else '-' :: natDigits (-n).toNat := by
  rw [Int.toString_eq_repr, Int.repr_eq_if]
  split <;> simp [Nat.toList_repr, natDigits]

/-- A whole number is a word already. -/
theorem lower_strip_toString (n : Int) : lower (strip (toString n)) = toString n := by
  apply lower_strip_of_isKept
  rw [toList_toString]
  intro c hc
  split at hc
  · exact isKept_of_isDigit (isDigit_of_mem_natDigits hc)
  · rcases List.mem_cons.mp hc with rfl | hc
    · decide
    · exact isKept_of_isDigit (isDigit_of_mem_natDigits hc)

/-- Without a minus a whole number is its digits. -/
theorem toString_of_not_mem {n : Int} (h : '-' ∉ (toString n).toList) :
    (∀ c ∈ (toString n).toList, c.isDigit = true) ∧
      n = Nat.ofDigitChars 10 (toString n).toList 0 := by
  rw [toList_toString] at h ⊢
  split at h
  case isTrue hn =>
    rw [if_pos hn, natDigits, Nat.ofDigitChars_ten_toDigits]
    exact ⟨fun c => isDigit_of_mem_natDigits, by omega⟩
  case isFalse => exact absurd List.mem_cons_self h

theorem point_mem_positional (digits : List Char) (point : Int) :
    '.' ∈ DoubleLayout.positional digits point := by
  unfold DoubleLayout.positional
  split
  · simp
  · split <;> simp

theorem sign_mem_scientific (layout : DoubleLayout) (digits : List Char) (exponent : Int) :
    '-' ∈ layout.scientific digits exponent ∨ '+' ∈ layout.scientific digits exponent := by
  unfold DoubleLayout.scientific
  by_cases h : exponent < 0
  · exact .inl (by simp [h])
  · exact .inr (by simp [h])

theorem exists_mem_magnitude (d : ScaledDigits) :
    ∃ c ∈ ['.', '+', '-'], c ∈ DoubleLayout.plain.magnitude d := by
  unfold DoubleLayout.magnitude
  dsimp only
  split
  · exact ⟨'.', by decide, point_mem_positional _ _⟩
  · rcases sign_mem_scientific DoubleLayout.plain d.digitRow (d.pointPosition - 1) with h | h
    · exact ⟨'-', by decide, h⟩
    · exact ⟨'+', by decide, h⟩

/-- The text of a double has a point or a sign, unless it is that of infinity or of no number. -/
theorem exists_mem_write (x : Float) :
    (∃ c ∈ ['.', '+', '-'], c ∈ (DoubleLayout.plain.write x).toList) ∨
      DoubleLayout.plain.write x ∈ ["nan", "inf"] := by
  unfold DoubleLayout.write
  cases Exact.ofDouble x with
  | undefined => exact .inr (by decide)
  | infinite negative =>
    cases negative with
    | false => exact .inr (by decide)
    | true => exact .inl ⟨'-', by decide, by decide⟩
  | finite negative mantissa exponent =>
    have hmagnitude : ∃ c ∈ ['.', '+', '-'], c ∈ (if mantissa = 0 then ['0', '.', '0']
        else DoubleLayout.plain.magnitude (ScaledDigits.shortest mantissa exponent)) := by
      split
      · exact ⟨'.', by decide, by decide⟩
      · exact exists_mem_magnitude _
    obtain ⟨c, hc, hmem⟩ := hmagnitude
    refine .inl ⟨c, hc, ?_⟩
    rw [String.toList_ofList]
    split
    · exact List.mem_cons_of_mem _ hmem
    · exact hmem

end Number

end HomeAutomation.Text
