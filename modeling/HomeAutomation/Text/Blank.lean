/-!
# Blank characters and trimming

`isBlank` is the class of blank characters, the Unicode white space together with the four
separator controls U+001C to U+001F. `trim p` removes the characters of a class from both ends of
a text and leaves the inside alone: what is left neither starts nor ends in the class
(`head?_trim`, `getLast?_trim`), and trimming twice is trimming once (`trim_trim`).
-/

namespace HomeAutomation.Text

/-- Blank characters: Unicode white space and the separators U+001C to U+001F. -/
def isBlank (c : Char) : Bool :=
  let n := c.toNat
  (0x09 ≤ n && n ≤ 0x0D) || (0x1C ≤ n && n ≤ 0x20) || n == 0x85 || n == 0xA0 || n == 0x1680 ||
    (0x2000 ≤ n && n ≤ 0x200A) || n == 0x2028 || n == 0x2029 || n == 0x202F || n == 0x205F ||
    n == 0x3000

/-- The blank characters that exclude the separators U+001C to U+001F. -/
def isWhiteSpace (c : Char) : Bool :=
  isBlank c && !(0x1C ≤ c.toNat && c.toNat ≤ 0x1F)

def trimEnd (p : Char → Bool) (s : List Char) : List Char :=
  (s.reverse.dropWhile p).reverse

def trim (p : Char → Bool) (s : List Char) : List Char :=
  trimEnd p (s.dropWhile p)

def strip (s : String) : String :=
  String.ofList (trim isBlank s.toList)

def isBlankText (s : String) : Bool :=
  s.toList.all isBlank

def stripEndSlashes (s : String) : String :=
  String.ofList (trimEnd (· == '/') s.toList)

def nonEmpty? : Option String → Option String
  | some s => if s.isEmpty then none else some s
  | none => none

@[simp] theorem trimEnd_nil (p : Char → Bool) : trimEnd p [] = [] := rfl

@[simp] theorem trim_nil (p : Char → Bool) : trim p [] = [] := rfl

theorem head?_dropWhile {p : Char → Bool} {s : List Char} {c : Char}
    (h : (s.dropWhile p).head? = some c) : p c = false := by
  have := List.head?_dropWhile_not p s
  rw [h] at this
  exact this

theorem dropWhile_eq_self {p : Char → Bool} {s : List Char}
    (h : ∀ c, s.head? = some c → p c = false) : s.dropWhile p = s := by
  cases s with
  | nil => rfl
  | cons c s => simp [h c rfl]

theorem trimEnd_prefix (p : Char → Bool) (s : List Char) : trimEnd p s <+: s := by
  simpa [trimEnd] using List.reverse_prefix.mpr (List.dropWhile_suffix p (l := s.reverse))

theorem getLast?_trimEnd {p : Char → Bool} {s : List Char} {c : Char}
    (h : (trimEnd p s).getLast? = some c) : p c = false := by
  rw [trimEnd, List.getLast?_reverse] at h
  exact head?_dropWhile h

theorem head?_trim {p : Char → Bool} {s : List Char} {c : Char}
    (h : (trim p s).head? = some c) : p c = false := by
  obtain ⟨rest, hrest⟩ := trimEnd_prefix p (s.dropWhile p)
  refine head?_dropWhile (s := s) ?_
  rw [← hrest, List.head?_append, ← trim, h]
  rfl

theorem getLast?_trim {p : Char → Bool} {s : List Char} {c : Char}
    (h : (trim p s).getLast? = some c) : p c = false :=
  getLast?_trimEnd h

theorem trimEnd_trimEnd (p : Char → Bool) (s : List Char) :
    trimEnd p (trimEnd p s) = trimEnd p s := by
  simp only [trimEnd, List.reverse_reverse]
  rw [dropWhile_eq_self fun _ h => head?_dropWhile h]

theorem trim_trim (p : Char → Bool) (s : List Char) : trim p (trim p s) = trim p s := by
  rw [trim, dropWhile_eq_self (s := trim p s) fun _ h => head?_trim h, trim, trimEnd_trimEnd]

end HomeAutomation.Text
