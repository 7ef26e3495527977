/-!
# Parts of a text

Whether one text begins another (`beginsWith_iff`), or occurs anywhere in it (`occursIn_iff`).
-/

namespace HomeAutomation.Text

def occursIn (part : List Char) : List Char → Bool
  | [] => part.isEmpty
  | c :: rest => part.isPrefixOf (c :: rest) || occursIn part rest

theorem occursIn_iff {part s : List Char} : occursIn part s = true ↔ part <:+: s := by
  induction s with
  | nil => simp [occursIn]
  | cons c rest ih => simp [occursIn, ih, List.infix_cons_iff]

def beginsWith (start s : String) : Bool :=
  start.toList.isPrefixOf s.toList

theorem beginsWith_iff {start s : String} :
    beginsWith start s = true ↔ ∃ rest, s.toList = start.toList ++ rest := by
  rw [beginsWith, List.isPrefixOf_iff_prefix]
  exact ⟨fun ⟨rest, h⟩ => ⟨rest, h.symm⟩, fun ⟨rest, h⟩ => ⟨rest, h.symm⟩⟩

def contains (part s : String) : Bool :=
  occursIn part.toList s.toList

/-- What is left after the first characters, as many as the given text has. -/
def dropStart (start s : String) : String :=
  String.ofList (s.toList.drop start.toList.length)

@[simp] theorem beginsWith_append (start rest : String) :
    beginsWith start (start ++ rest) = true :=
  beginsWith_iff.mpr ⟨rest.toList, String.toList_append⟩

@[simp] theorem dropStart_append (start rest : String) :
    dropStart start (start ++ rest) = rest := by
  rw [dropStart, String.toList_append, List.drop_left, String.ofList_toList]

theorem append_dropStart {start s : String} (h : beginsWith start s = true) :
    start ++ dropStart start s = s := by
  obtain ⟨rest, hrest⟩ := beginsWith_iff.mp h
  have hs : s = start ++ String.ofList rest := by
    rw [← String.ofList_toList (s := s), hrest, String.ofList_append, String.ofList_toList]
  rw [hs, dropStart_append]

/-- A text in front does not change whether one text begins another. -/
theorem beginsWith_append_append (front start s : String) :
    beginsWith (front ++ start) (front ++ s) = beginsWith start s := by
  rw [Bool.eq_iff_iff, beginsWith_iff, beginsWith_iff]
  simp

end HomeAutomation.Text
