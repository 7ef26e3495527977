import HomeAutomation.Text.Numeral
import Mathlib.Data.Nat.Digits.Defs

/-!
# What is read as a whole number

`Numeral s n` is the grammar of whole numbers: blanks, a sign, digits of any script with single
underscores between them, at most `maxDigits`, and blanks again. A text is read as a number exactly
if it is a numeral of that number (`readInt?_eq_some_iff`). The padded form of a number that was
read is such a numeral again, whatever its sign and size (`readInt?_twoDigits`).
-/

namespace HomeAutomation.Text

/-- The blanks that may stand around a numeral: of the ASCII characters, fewer than are blank. -/
def isNumeralSpace (c : Char) : Bool :=
  isNumeralBlank c || (0x7F ≤ c.toNat && isBlank c)

/-- Digits, with single underscores between some of them. -/
inductive Digits : List Char → List Nat → Prop
  | last {c : Char} {d : Nat} (h : decimalDigit? c = some d) : Digits [c] [d]
  | next {c : Char} {d : Nat} {s : List Char} {ds : List Nat} (h : decimalDigit? c = some d)
    (hs : Digits s ds) : Digits (c :: s) (d :: ds)
  | grouped {c : Char} {d : Nat} {s : List Char} {ds : List Nat} (h : decimalDigit? c = some d)
    (hs : Digits s ds) : Digits (c :: '_' :: s) (d :: ds)

/-- What may stand in front of the digits, and whether the number is negative then. -/
inductive Sign : List Char → Bool → Prop
  | absent : Sign [] false
  | plus : Sign ['+'] false
  | minus : Sign ['-'] true

def signed (negative : Bool) (n : Nat) : Int :=
  if negative then -(n : Int) else n

/-- The text is a whole number as people write it. -/
inductive Numeral : List Char → Int → Prop
  | intro {before sign digits after : List Char} {negative : Bool} {ds : List Nat}
    (hbefore : ∀ c ∈ before, isNumeralSpace c = true) (hsign : Sign sign negative)
    (hdigits : Digits digits ds) (hlength : ds.length ≤ maxDigits)
    (hafter : ∀ c ∈ after, isNumeralSpace c = true) :
    Numeral (before ++ (sign ++ digits ++ after)) (signed negative (ofDigits ds))

section Character

variable {c c' : Char} {d : Nat}

theorem asciiDigit?_eq_some_iff : asciiDigit? c = some d ↔ d < 10 ∧ c.toNat = 0x30 + d := by
  have hlow : '0' ≤ c ↔ 0x30 ≤ c.toNat := Iff.rfl
  have hhigh : c ≤ '9' ↔ c.toNat ≤ 0x39 := Iff.rfl
  have hzero : '0'.toNat = 0x30 := rfl
  simp only [asciiDigit?, hlow, hhigh, hzero]
  split
  · rw [Option.some.injEq]
    omega
  · simp only [reduceCtorEq, false_iff]
    omega

theorem asciiDigit?_of_isDigit (h : c.isDigit = true) :
    asciiDigit? c = some (c.toNat - '0'.toNat) := by
  rw [Char.isDigit, Bool.and_eq_true, decide_eq_true_eq, decide_eq_true_eq] at h
  exact if_pos h

theorem asciiDigit?_digitChar (hd : d < 10) : asciiDigit? (Nat.digitChar d) = some d := by
  revert d
  decide

theorem eq_digitChar (hd : d < 10) (h : c.toNat = 0x30 + d) : c = Nat.digitChar d := by
  have hdigits : ∀ d < 10, (Nat.digitChar d).toNat = 0x30 + d := by decide
  apply Char.toNat_inj.mp
  rw [h, hdigits d hd]

theorem exists_first_of_decimalDigit? (h : decimalDigit? c = some d) :
    ∃ first ∈ digitZeros, d < 10 ∧ c.toNat = first + d := by
  obtain ⟨first, hfind, hd⟩ := Option.map_eq_some_iff.mp h
  have hrange := List.find?_some hfind
  simp only [Bool.and_eq_true, decide_eq_true_eq] at hrange
  exact ⟨first, List.mem_of_find?_eq_some hfind, by omega, by omega⟩

theorem lt_ten_of_decimalDigit? (h : decimalDigit? c = some d) : d < 10 := by
  obtain ⟨-, -, hd, -⟩ := exists_first_of_decimalDigit? h
  exact hd

/-- No script beyond ASCII has its digits among ASCII characters or blanks. -/
theorem first_cases : ∀ first ∈ digitZeros, first = 0x30 ∨ 0xA0 < first ∧
    (first + 10 ≤ 0x1680 ∨ 0x1680 < first ∧ first + 10 ≤ 0x2000 ∨ 0x3000 < first) := by
  decide

theorem decimalDigit?_ascii (h : c.toNat < 0x7F) : decimalDigit? c = asciiDigit? c := by
  ext d
  constructor
  · intro hdigit
    obtain ⟨first, hmem, hd, hc⟩ := exists_first_of_decimalDigit? hdigit
    rw [asciiDigit?_eq_some_iff]
    rcases first_cases first hmem with rfl | hfirst
    · exact ⟨hd, hc⟩
    · omega
  · intro hdigit
    obtain ⟨hd, hc⟩ := asciiDigit?_eq_some_iff.mp hdigit
    have hin : (0x30 ≤ c.toNat && c.toNat < 0x30 + 10) = true := by
      simp only [Bool.and_eq_true, decide_eq_true_eq]
      omega
    have hfind : digitZeros.find? (fun first => first ≤ c.toNat && c.toNat < first + 10) =
        some 0x30 := List.find?_cons_of_pos hin
    rw [decimalDigit?, hfind, Option.map_some, hc, Nat.add_sub_cancel_left]

theorem isBlank_of_decimalDigit? (h : decimalDigit? c = some d) : isBlank c = false := by
  obtain ⟨first, hmem, hd, hc⟩ := exists_first_of_decimalDigit? h
  have hfirst := first_cases first hmem
  rw [← Bool.not_eq_true]
  simp only [isBlank, Bool.or_eq_true, Bool.and_eq_true, decide_eq_true_eq, beq_iff_eq]
  omega

theorem numeralChar?_of_decimalDigit? (h : decimalDigit? c = some d) :
    numeralChar? c = some (Nat.digitChar d) := by
  unfold numeralChar?
  split
  case isTrue hascii =>
    rw [decimalDigit?_ascii hascii, asciiDigit?_eq_some_iff] at h
    rw [← eq_digitChar h.1 h.2]
  case isFalse => rw [if_neg (by rw [isBlank_of_decimalDigit? h]; decide), h, Option.map_some]

/-- What a character of a numeral becomes: itself, a space, or a digit. -/
theorem numeralChar?_cases (h : numeralChar? c = some c') :
    c.toNat < 0x7F ∧ c' = c ∨ (0x7F ≤ c.toNat ∧ isBlank c = true) ∧ c' = ' ' ∨
      ∃ d < 10, decimalDigit? c = some d ∧ c' = Nat.digitChar d := by
  unfold numeralChar? at h
  split at h
  case isTrue hascii => exact .inl ⟨hascii, (Option.some.inj h).symm⟩
  case isFalse hascii =>
    split at h
    case isTrue hblank => exact .inr (.inl ⟨⟨by omega, hblank⟩, (Option.some.inj h).symm⟩)
    case isFalse =>
      obtain ⟨d, hd, rfl⟩ := Option.map_eq_some_iff.mp h
      exact .inr (.inr ⟨d, lt_ten_of_decimalDigit? hd, hd, rfl⟩)

/-- What becomes an ASCII digit is a digit of the same value. -/
theorem decimalDigit?_of_numeralChar? (h : numeralChar? c = some c')
    (hd : asciiDigit? c' = some d) : decimalDigit? c = some d := by
  rcases numeralChar?_cases h with ⟨hascii, rfl⟩ | ⟨-, rfl⟩ | ⟨e, he, hdigit, rfl⟩
  · rw [decimalDigit?_ascii hascii, hd]
  · cases hd
  · rw [asciiDigit?_digitChar he] at hd
    rw [hdigit, hd]

/-- What becomes neither a digit nor a space is left as it is. -/
theorem eq_of_numeralChar? (h : numeralChar? c = some c') (hdigit : asciiDigit? c' = none)
    (hspace : c' ≠ ' ') : c = c' := by
  rcases numeralChar?_cases h with ⟨-, rfl⟩ | ⟨-, rfl⟩ | ⟨e, he, -, rfl⟩
  · rfl
  · exact absurd rfl hspace
  · rw [asciiDigit?_digitChar he] at hdigit
    cases hdigit

theorem isNumeralBlank_of_asciiDigit? (h : asciiDigit? c = some d) : isNumeralBlank c = false := by
  obtain ⟨hd, hc⟩ := asciiDigit?_eq_some_iff.mp h
  have hne : c ≠ ' ' := by
    rintro rfl
    cases h
  rw [← Bool.not_eq_true]
  simp only [isNumeralBlank, Bool.or_eq_true, Bool.and_eq_true, decide_eq_true_eq, beq_iff_eq, hne,
    or_false]
  omega

theorem isNumeralSpace_of_numeralChar? (h : numeralChar? c = some c')
    (hblank : isNumeralBlank c' = true) : isNumeralSpace c = true := by
  unfold isNumeralSpace
  rcases numeralChar?_cases h with ⟨-, rfl⟩ | ⟨⟨hlarge, hc⟩, -⟩ | ⟨e, he, -, rfl⟩
  · rw [hblank, Bool.true_or]
  · rw [hc, decide_eq_true hlarge, Bool.and_self, Bool.or_true]
  · rw [isNumeralBlank_of_asciiDigit? (asciiDigit?_digitChar he)] at hblank
    cases hblank

theorem exists_numeralChar?_of_isNumeralSpace (h : isNumeralSpace c = true) :
    ∃ c', numeralChar? c = some c' ∧ isNumeralBlank c' = true := by
  unfold numeralChar?
  by_cases hascii : c.toNat < 0x7F
  · rw [if_pos hascii]
    refine ⟨c, rfl, ?_⟩
    simpa [isNumeralSpace, Nat.not_le.mpr hascii] using h
  · have hblank : isBlank c = true := by
      have hne : c ≠ ' ' := by
        rintro rfl
        exact hascii (by decide)
      simp only [isNumeralSpace, isNumeralBlank, Bool.or_eq_true, Bool.and_eq_true,
        decide_eq_true_eq, beq_iff_eq, hne, or_false] at h
      exact (h.resolve_left (by omega)).2
    rw [if_neg hascii, if_pos hblank]
    exact ⟨' ', rfl, rfl⟩

end Character

section Image

variable {s t : List Char} {ds : List Nat}

theorem mapM_eq_some_iff {α β : Type} {f : α → Option β} {s : List α} {t : List β} :
    s.mapM f = some t ↔ s.map f = t.map some := by
  induction s generalizing t with
  | nil => cases t <;> simp
  | cons x s ih => cases t <;> simp [List.mapM_cons, Option.bind_eq_some_iff, ← ih]

theorem groupedDigits?_cons {c : Char} {d : Nat} (h : asciiDigit? c = some d) (b : Bool) :
    groupedDigits? b (c :: s) = (groupedDigits? true s).map (d :: ·) := by
  have hne : c ≠ '_' := by
    rintro rfl
    cases h
  rw [groupedDigits?, if_neg hne, h]

/-- Digits stay digits of the same values in ASCII, and no digit is a blank. -/
theorem Digits.exists_image (h : Digits s ds) :
    ∃ t, s.map numeralChar? = t.map some ∧ (∀ b, groupedDigits? b t = some ds) ∧
      ∀ c ∈ t, isNumeralBlank c = false := by
  -- The digit in front, whatever comes after it.
  have front : ∀ {c d}, decimalDigit? c = some d →
      ∃ c', numeralChar? c = some c' ∧ asciiDigit? c' = some d := by
    intro c d hc
    have hd := lt_ten_of_decimalDigit? hc
    exact ⟨_, numeralChar?_of_decimalDigit? hc, asciiDigit?_digitChar hd⟩
  induction h with
  | last h =>
    obtain ⟨c', hc', hd⟩ := front h
    refine ⟨[c'], by simp [hc'], fun b => ?_, by simp [isNumeralBlank_of_asciiDigit? hd]⟩
    rw [groupedDigits?_cons hd]
    rfl
  | next h _ ih =>
    obtain ⟨c', hc', hd⟩ := front h
    obtain ⟨t, himage, hread, hblank⟩ := ih
    refine ⟨c' :: t, by simp [hc', himage], fun b => ?_,
      List.forall_mem_cons.mpr ⟨isNumeralBlank_of_asciiDigit? hd, hblank⟩⟩
    rw [groupedDigits?_cons hd, hread, Option.map_some]
  | grouped h _ ih =>
    obtain ⟨c', hc', hd⟩ := front h
    obtain ⟨t, himage, hread, hblank⟩ := ih
    have hunderscore : numeralChar? '_' = some '_' := by decide
    refine ⟨c' :: '_' :: t, by simp [hc', himage, hunderscore], fun b => ?_,
      List.forall_mem_cons.mpr ⟨isNumeralBlank_of_asciiDigit? hd,
        List.forall_mem_cons.mpr ⟨by decide, hblank⟩⟩⟩
    rw [groupedDigits?_cons hd, groupedDigits?, if_pos rfl, if_pos rfl, hread, Option.map_some]

/-- The text whose digits were read has digits of the same values, apart from an underscore in front
where a digit has come before. -/
theorem digits_of_groupedDigits? (himage : s.map numeralChar? = t.map some) {b : Bool}
    (h : groupedDigits? b t = some ds) :
    Digits s ds ∨ b = true ∧ (s = [] ∧ ds = [] ∨ ∃ rest, s = '_' :: rest ∧ Digits rest ds) := by
  induction t generalizing s b ds with
  | nil =>
    obtain rfl := List.map_eq_nil_iff.mp himage
    cases b with
    | false => cases h
    | true =>
      obtain rfl := Option.some.inj h
      exact .inr ⟨rfl, .inl ⟨rfl, rfl⟩⟩
  | cons c' t ih =>
    obtain ⟨c, s, rfl, hc, hs⟩ := List.map_eq_cons_iff.mp himage
    rw [groupedDigits?] at h
    split at h
    case isTrue hc' =>
      subst hc'
      obtain rfl := eq_of_numeralChar? hc rfl (by decide)
      cases b with
      | false => cases h
      | true =>
        rcases ih hs h with hrest | ⟨hfalse, -⟩
        · exact .inr ⟨rfl, .inr ⟨s, rfl, hrest⟩⟩
        · cases hfalse
    case isFalse =>
      split at h
      case h_1 d hd =>
        have hdigit := decimalDigit?_of_numeralChar? hc hd
        obtain ⟨ds, hrest, rfl⟩ := Option.map_eq_some_iff.mp h
        rcases ih hs hrest with hrest | ⟨-, ⟨rfl, rfl⟩ | ⟨rest, rfl, hrest⟩⟩
        · exact .inl (.next hdigit hrest)
        · exact .inl (.last hdigit)
        · exact .inl (.grouped hdigit hrest)
      case h_2 => cases h

/-- What is taken off a text's ends is in the class. -/
theorem exists_append_trim (p : Char → Bool) (s : List Char) :
    ∃ before after, s = before ++ (trim p s ++ after) ∧ (∀ c ∈ before, p c = true) ∧
      ∀ c ∈ after, p c = true := by
  refine ⟨s.takeWhile p, ((s.dropWhile p).reverse.takeWhile p).reverse, ?_,
    List.all_eq_true.mp List.all_takeWhile, fun c hc => ?_⟩
  · rw [trim, trimEnd, ← List.reverse_append, List.takeWhile_append_dropWhile,
      List.reverse_reverse, List.takeWhile_append_dropWhile]
  · exact List.all_eq_true.mp List.all_takeWhile c (List.mem_reverse.mp hc)

theorem trim_append {p : Char → Bool} {before core after : List Char}
    (hbefore : ∀ c ∈ before, p c = true) (hcore : ∀ c ∈ core, p c = false)
    (hafter : ∀ c ∈ after, p c = true) : trim p (before ++ (core ++ after)) = core := by
  have hend : trimEnd p (core ++ after) = core := by
    rw [trimEnd, List.reverse_append,
      List.dropWhile_append_of_pos fun c hc => hafter c (List.mem_reverse.mp hc),
      dropWhile_eq_self fun c hc => hcore c (List.mem_reverse.mp (List.mem_of_head? hc)),
      List.reverse_reverse]
  rw [trim, List.dropWhile_append_of_pos hbefore]
  cases core with
  | nil =>
    rw [List.nil_append, ← List.append_nil after, List.dropWhile_append_of_pos hafter]
    rfl
  | cons c core =>
    have hfirst : ∀ d, (c :: core ++ after).head? = some d → p d = false := by
      rintro d ⟨⟩
      exact hcore c List.mem_cons_self
    rw [dropWhile_eq_self hfirst, hend]

end Image

section Reading

variable {s : List Char} {n : Int}

theorem Sign.exists_splitSign (s : List Char) :
    ∃ sign, Sign sign (splitSign s).1 ∧ s = sign ++ (splitSign s).2 := by
  unfold splitSign
  split
  · exact ⟨_, .minus, rfl⟩
  · exact ⟨_, .plus, rfl⟩
  · exact ⟨_, .absent, rfl⟩

theorem Sign.splitSign_append {sign digits : List Char} {negative : Bool} {ds : List Nat}
    (hsign : Sign sign negative) (h : groupedDigits? false digits = some ds) :
    splitSign (sign ++ digits) = (negative, digits) := by
  cases hsign with
  | plus => rfl
  | minus => rfl
  | absent =>
    rw [List.nil_append]
    unfold splitSign
    split
    · cases h
    · cases h
    · rfl

theorem eq_singleton_of_numeralChar? {s : List Char} {c : Char}
    (himage : s.map numeralChar? = [some c]) (hdigit : asciiDigit? c = none) (hspace : c ≠ ' ') :
    s = [c] := by
  obtain ⟨c', rest, rfl, hc, hrest⟩ := List.map_eq_cons_iff.mp himage
  rw [eq_of_numeralChar? hc hdigit hspace, List.map_eq_nil_iff.mp hrest]

theorem Sign.map_numeralChar?_iff {sign s : List Char} {negative : Bool}
    (h : Sign sign negative) : s.map numeralChar? = sign.map some ↔ s = sign := by
  constructor
  · intro himage
    cases h with
    | absent => exact List.map_eq_nil_iff.mp himage
    | plus => exact eq_singleton_of_numeralChar? himage rfl (by decide)
    | minus => exact eq_singleton_of_numeralChar? himage rfl (by decide)
  · rintro rfl
    cases h <;> rfl

theorem Sign.not_isNumeralBlank {sign : List Char} {negative : Bool} (h : Sign sign negative) :
    ∀ c ∈ sign, isNumeralBlank c = false := by
  cases h with
  | absent => exact List.forall_mem_nil _
  | plus => exact List.forall_mem_singleton.mpr rfl
  | minus => exact List.forall_mem_singleton.mpr rfl

theorem isNumeralSpace_of_map {s t : List Char} (himage : s.map numeralChar? = t.map some)
    (h : ∀ c ∈ t, isNumeralBlank c = true) : ∀ c ∈ s, isNumeralSpace c = true := by
  intro c hc
  obtain ⟨c', hc', heq⟩ := List.mem_map.mp (himage ▸ List.mem_map_of_mem hc)
  exact isNumeralSpace_of_numeralChar? heq.symm (h c' hc')

theorem exists_map_of_isNumeralSpace {s : List Char} (h : ∀ c ∈ s, isNumeralSpace c = true) :
    ∃ t : List Char, s.map numeralChar? = t.map some ∧ ∀ c ∈ t, isNumeralBlank c = true := by
  induction s with
  | nil => exact ⟨[], rfl, by simp⟩
  | cons c s ih =>
    obtain ⟨hc, hs⟩ := List.forall_mem_cons.mp h
    obtain ⟨c', hc', hblank⟩ := exists_numeralChar?_of_isNumeralSpace hc
    obtain ⟨t, himage, ht⟩ := ih hs
    exact ⟨c' :: t, by simp [hc', himage], List.forall_mem_cons.mpr ⟨hblank, ht⟩⟩

theorem numeral?_of_map {s before core after : List Char}
    (himage : s.map numeralChar? = (before ++ (core ++ after)).map some)
    (hbefore : ∀ c ∈ before, isNumeralBlank c = true)
    (hcore : ∀ c ∈ core, isNumeralBlank c = false)
    (hafter : ∀ c ∈ after, isNumeralBlank c = true) : numeral? s = some core := by
  rw [numeral?, mapM_eq_some_iff.mpr himage, Option.map_some, trim_append hbefore hcore hafter]

theorem readNat?_eq_some_iff {s : List Char} {m : Nat} : readNat? s = some m ↔
    ∃ ds, groupedDigits? false s = some ds ∧ ds.length ≤ maxDigits ∧ ofDigits ds = m := by
  unfold readNat?
  cases groupedDigits? false s <;> simp

/-- A text is read as a number exactly if it is a numeral of that number. -/
theorem readInt?_eq_some_iff : readInt? s = some n ↔ Numeral s n := by
  constructor
  · intro h
    obtain ⟨core, hcore, h⟩ := Option.bind_eq_some_iff.mp h
    obtain ⟨m, hm, h⟩ := Option.bind_eq_some_iff.mp h
    obtain rfl := Option.some.inj h
    obtain ⟨t, ht, rfl⟩ := Option.map_eq_some_iff.mp hcore
    obtain ⟨ds, hds, hlength, rfl⟩ := readNat?_eq_some_iff.mp hm
    obtain ⟨before, after, hsplit, hbefore, hafter⟩ := exists_append_trim isNumeralBlank t
    obtain ⟨sign, hsign, hcore⟩ := Sign.exists_splitSign (trim isNumeralBlank t)
    -- The ASCII text splits at its blanks and its sign, and the text at the same places.
    have himage := mapM_eq_some_iff.mp ht
    rw [hsplit, hcore] at himage
    simp only [List.map_append, List.map_eq_append_iff] at himage
    obtain ⟨before', rest, rfl, hbefore', rest', after', rfl,
      ⟨sign', digits', rfl, hsign', hdigits'⟩, hafter'⟩ := himage
    obtain rfl := hsign.map_numeralChar?_iff.mp hsign'
    rcases digits_of_groupedDigits? hdigits' hds with hdigits | ⟨hfalse, -⟩
    · exact .intro (isNumeralSpace_of_map hbefore' hbefore) hsign hdigits hlength
        (isNumeralSpace_of_map hafter' hafter)
    · cases hfalse
  · rintro @⟨before, sign, digits, after, negative, ds, hbefore, hsign, hdigits, hlength, hafter⟩
    obtain ⟨before', himageBefore, hbefore'⟩ := exists_map_of_isNumeralSpace hbefore
    obtain ⟨digits', himageDigits, hread, hdigits'⟩ := hdigits.exists_image
    obtain ⟨after', himageAfter, hafter'⟩ := exists_map_of_isNumeralSpace hafter
    have himage : (before ++ (sign ++ digits ++ after)).map numeralChar? =
        (before' ++ (sign ++ digits' ++ after')).map some := by
      simp only [List.map_append, himageBefore, hsign.map_numeralChar?_iff.mpr rfl, himageDigits,
        himageAfter]
    have hcore := List.forall_mem_append.mpr ⟨hsign.not_isNumeralBlank, hdigits'⟩
    have hm := readNat?_eq_some_iff.mpr ⟨ds, hread false, hlength, rfl⟩
    rw [readInt?, numeral?_of_map himage hbefore' hcore hafter', Option.bind_eq_bind,
      Option.bind_some, hsign.splitSign_append (hread false)]
    simp only [hm]
    rfl

theorem readInt?_eq_none_iff : readInt? s = none ↔ ∀ n, ¬ Numeral s n := by
  simp only [Option.eq_none_iff_forall_ne_some, ne_eq, readInt?_eq_some_iff]

end Reading

section Writing

variable {s : List Char} {ds : List Nat} {n : Int}

theorem Digits.lt_ten (h : Digits s ds) : ∀ d ∈ ds, d < 10 := by
  induction h with
  | last h => exact List.forall_mem_singleton.mpr (lt_ten_of_decimalDigit? h)
  | next h _ ih => exact List.forall_mem_cons.mpr ⟨lt_ten_of_decimalDigit? h, ih⟩
  | grouped h _ ih => exact List.forall_mem_cons.mpr ⟨lt_ten_of_decimalDigit? h, ih⟩

theorem ofDigits_eq (ds : List Nat) : ofDigits ds = Nat.ofDigits 10 ds.reverse := by
  simp [ofDigits, Nat.ofDigits_eq_foldr, add_comm]

theorem ofDigits_lt (h : ∀ d ∈ ds, d < 10) : ofDigits ds < 10 ^ ds.length := by
  rw [ofDigits_eq, ← List.length_reverse]
  exact Nat.ofDigits_lt_base_pow_length (by decide) fun d hd => h d (List.mem_reverse.mp hd)

theorem Numeral.natAbs_lt (h : Numeral s n) : n.natAbs < 10 ^ maxDigits := by
  obtain @⟨_, _, _, _, negative, ds, -, -, hdigits, hlength, -⟩ := h
  calc (signed negative (ofDigits ds)).natAbs
    _ = ofDigits ds := by cases negative <;> simp [signed]
    _ < 10 ^ ds.length := ofDigits_lt hdigits.lt_ten
    _ ≤ 10 ^ maxDigits := Nat.pow_le_pow_right (by decide) hlength

theorem digits_of_isDigit (hne : s ≠ []) (h : ∀ c ∈ s, c.isDigit = true) :
    Digits s (s.map fun c => c.toNat - '0'.toNat) := by
  have front : ∀ {c : Char}, c.isDigit = true → decimalDigit? c = some (c.toNat - '0'.toNat) := by
    intro c hc
    have hdigit := asciiDigit?_of_isDigit hc
    obtain ⟨hd, hc'⟩ := asciiDigit?_eq_some_iff.mp hdigit
    rw [decimalDigit?_ascii (by omega), hdigit]
  induction s with
  | nil => exact absurd rfl hne
  | cons c s ih =>
    obtain ⟨hc, hs⟩ := List.forall_mem_cons.mp h
    cases s with
    | nil => exact .last (front hc)
    | cons c' s => exact .next (front hc) (ih (by simp) hs)

theorem ofDigits_map (s : List Char) :
    ofDigits (s.map fun c => c.toNat - '0'.toNat) = Nat.ofDigitChars 10 s 0 := by
  rw [ofDigits, List.foldl_map, Nat.ofDigitChars_eq_foldl]

theorem numeral_of_isDigit {sign : List Char} {negative : Bool} (hsign : Sign sign negative)
    (hne : s ≠ []) (h : ∀ c ∈ s, c.isDigit = true) (hlength : s.length ≤ maxDigits) :
    Numeral (sign ++ s) (signed negative (Nat.ofDigitChars 10 s 0)) := by
  have hnil : ∀ c ∈ ([] : List Char), isNumeralSpace c = true := by simp
  have hnumeral := Numeral.intro hnil hsign (digits_of_isDigit hne h) (by simpa using hlength) hnil
  rwa [ofDigits_map, List.nil_append, List.append_nil] at hnumeral

theorem isDigit_of_mem_natDigits {n : Nat} {c : Char} (h : c ∈ natDigits n) : c.isDigit = true :=
  Nat.isDigit_of_mem_toDigits (by decide) (by decide) h

/-- A padded number is a numeral of it, unless it has too many digits. -/
theorem numeral_twoDigits (h : n.natAbs < 10 ^ maxDigits) : Numeral (twoDigits n) n := by
  have hne : natDigits n.natAbs ≠ [] := Nat.toDigits_ne_nil
  have hlength : (natDigits n.natAbs).length ≤ maxDigits :=
    (Nat.length_toDigits_le_iff (by decide) (by decide)).mpr h
  have hdigit : ∀ c ∈ natDigits n.natAbs, c.isDigit = true :=
    fun c => isDigit_of_mem_natDigits
  have hvalue : Nat.ofDigitChars 10 (natDigits n.natAbs) 0 = n.natAbs :=
    Nat.ofDigitChars_ten_toDigits
  unfold twoDigits
  generalize natDigits n.natAbs = digits at hne hlength hdigit hvalue ⊢
  dsimp only
  split
  case isTrue hneg =>
    have hn : signed true n.natAbs = n := by
      rw [signed, if_pos rfl]
      omega
    simpa [hvalue, hn] using numeral_of_isDigit .minus hne hdigit hlength
  case isFalse hpos =>
    have hn : signed false n.natAbs = n := by
      rw [signed, if_neg (by decide)]
      omega
    have hpadded : ∀ c ∈ List.replicate (2 - digits.length) '0' ++ digits, c.isDigit = true := by
      refine List.forall_mem_append.mpr ⟨fun c hc => ?_, hdigit⟩
      rw [List.eq_of_mem_replicate hc]
      rfl
    have hwidth : (List.replicate (2 - digits.length) '0' ++ digits).length ≤ maxDigits := by
      have htwo : 2 ≤ maxDigits := by decide
      rw [List.length_append, List.length_replicate]
      omega
    have hnumeral := numeral_of_isDigit .absent (by simp [hne]) hpadded hwidth
    rwa [Nat.ofDigitChars_append, Nat.ofDigitChars_replicate_zero, Nat.mul_zero, hvalue, hn]
      at hnumeral

theorem readInt?_twoDigits (h : n.natAbs < 10 ^ maxDigits) :
    readInt? (twoDigits n) = some n :=
  readInt?_eq_some_iff.mpr (numeral_twoDigits h)

end Writing

end HomeAutomation.Text
