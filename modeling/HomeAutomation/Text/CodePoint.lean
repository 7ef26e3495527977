import HomeAutomation.Text.Quoted

/-!
# Texts with surrogates

A `String` is a row of characters. An id may come in as a row of any code points instead, and some
of those are surrogates: halves of pairs that are no characters and have no UTF-8 form. A `WideText`
holds any code points, and it is a text if none of them is a surrogate (`WideText.text?`).

Everything else in the library is a `String`: drafts, settings, addresses and whatever stands in
JSON are well-formed Unicode.
-/

namespace HomeAutomation.Text

inductive CodePoint where
  | char (c : Char)
  /-- The surrogate with the number, counted from U+D800. -/
  | surrogate (number : Fin 0x800)
  deriving DecidableEq, Repr

namespace CodePoint

def char? : CodePoint → Option Char
  | char c => some c
  | surrogate _ => none

def value : CodePoint → Nat
  | char c => c.toNat
  | surrogate number => 0xD800 + number

end CodePoint

/-- Any code points, surrogates among them. -/
structure WideText where
  points : List CodePoint
  deriving DecidableEq, Repr

namespace WideText

@[coe] def ofString (s : String) : WideText :=
  ⟨s.toList.map .char⟩

instance : Coe String WideText := ⟨ofString⟩

def chars? : List CodePoint → Option (List Char)
  | [] => some []
  | .char c :: rest => (chars? rest).map (c :: ·)
  | .surrogate _ :: _ => none

def text? (s : WideText) : Option String :=
  (chars? s.points).map String.ofList

/-- Why a text with a surrogate has no UTF-8 form: the first row of surrogates is named. -/
def encodingMessage (s : WideText) : String :=
  let start := (s.points.takeWhile fun p => p.char?.isSome).length
  let row := (s.points.drop start).takeWhile fun p => p.char?.isNone
  let place :=
    match row with
    | [p] =>
      "character '\\u" ++ String.ofList (hexadecimal 4 p.value) ++ "' in position " ++
        toString start
    | _ => "characters in position " ++ toString start ++ "-" ++ toString (start + row.length - 1)
  "'utf-8' codec can't encode " ++ place ++ ": surrogates not allowed"

def HasSurrogate (s : WideText) : Prop :=
  ∃ number, .surrogate number ∈ s.points

theorem chars?_eq_some_iff {points : List CodePoint} {cs : List Char} :
    chars? points = some cs ↔ points = cs.map .char := by
  induction points generalizing cs with
  | nil => cases cs <;> simp [chars?]
  | cons p points ih =>
      cases p with
      | surrogate number => cases cs <;> simp [chars?]
      | char c =>
          rw [chars?, Option.map_eq_some_iff]
          constructor
          · rintro ⟨rest, hrest, rfl⟩
            rw [ih.mp hrest, List.map_cons]
          · intro h
            obtain ⟨d, rest, rfl, hd, hrest⟩ := List.map_eq_cons_iff.mp h.symm
            obtain rfl : d = c := CodePoint.char.inj hd
            exact ⟨rest, ih.mpr hrest.symm, rfl⟩

theorem chars?_eq_none_iff {points : List CodePoint} :
    chars? points = none ↔ ∃ number, .surrogate number ∈ points := by
  induction points with
  | nil => simp [chars?]
  | cons p points ih =>
      cases p with
      | char c => simp [chars?, ih]
      | surrogate number => simp [chars?]

theorem text?_eq_some_iff {s : WideText} {t : String} : s.text? = some t ↔ s = ofString t := by
  obtain ⟨points⟩ := s
  rw [text?, Option.map_eq_some_iff, ofString, mk.injEq, ← chars?_eq_some_iff]
  constructor
  · rintro ⟨cs, hcs, rfl⟩
    rwa [String.toList_ofList]
  · intro h
    exact ⟨_, h, String.ofList_toList⟩

theorem ofString_inj {t t' : String} : ofString t = ofString t' ↔ t = t' := by
  rw [← text?_eq_some_iff, text?_eq_some_iff.mpr rfl, Option.some.injEq]

@[simp] theorem text?_ofString (t : String) : (ofString t).text? = some t :=
  text?_eq_some_iff.mpr rfl

theorem text?_eq_none_iff {s : WideText} : s.text? = none ↔ s.HasSurrogate := by
  rw [text?, Option.map_eq_none_iff, chars?_eq_none_iff, HasSurrogate]

theorem exists_ofString_of_not_hasSurrogate {s : WideText} (h : ¬ s.HasSurrogate) :
    ∃ t : String, s = t := by
  rw [← text?_eq_none_iff, ← ne_eq, Option.ne_none_iff_exists'] at h
  obtain ⟨t, ht⟩ := h
  exact ⟨t, text?_eq_some_iff.mp ht⟩

end WideText

end HomeAutomation.Text
