import HomeAutomation.Proofs.Text.Utf8
import HomeAutomation.Text.Percent

/-!
# Reading percent encoding back

An encoded text is read back (`decode_encode`), so different texts have different encodings. It is
made of unreserved characters and escapes only (`isEncoded_encode`); in particular no character in
it ends a segment of a path (`isSegmentChar_of_mem_encode`).
-/

namespace HomeAutomation.Text.Percent

theorem hexValue?_hexDigit {n : Nat} (h : n < 16) : hexValue? (hexDigit n) = some n := by
  revert n
  decide

theorem toNat_ofNat_of_unreserved {n : Nat} (h : isUnreserved n = true) :
    (Char.ofNat n).toNat = n ∧ n < 0x80 ∧ n ≠ 0x25 := by
  simp only [isUnreserved, Bool.or_eq_true, Bool.and_eq_true, decide_eq_true_eq, beq_iff_eq] at h
  have hn : n < 0x80 ∧ n ≠ 0x25 := by omega
  refine ⟨?_, hn⟩
  have hvalid : n.isValidChar := Or.inl (by omega)
  rw [Char.ofNat, dif_pos hvalid]
  rfl

theorem octets_cons_of_ne {c : Char} (h : c ≠ '%') (rest : List Char) :
    octets (c :: rest) = Utf8.encodeChar c ++ octets rest := by
  match rest with
  | [] => simp [octets]
  | [a] => simp [octets]
  | a :: b :: rest => simp [octets, h]

/-- An octet is read off its encoding, whatever follows. -/
theorem octets_encodeOctet_append (b : UInt8) (rest : List Char) :
    octets (encodeOctet b ++ rest) = b :: octets rest := by
  unfold encodeOctet
  split
  · rename_i h
    obtain ⟨hchar, hlt, hne⟩ := toNat_ofNat_of_unreserved h
    have hpercent : Char.ofNat b.toNat ≠ '%' := by
      intro heq
      rw [heq] at hchar
      exact hne hchar.symm
    rw [List.singleton_append, octets_cons_of_ne hpercent, Utf8.encodeChar, hchar, if_pos hlt]
    simp [Utf8.octet]
  · have hlt := b.toNat_lt
    have hbyte : 16 * (b.toNat / 16) + b.toNat % 16 = b.toNat := by omega
    simp only [List.cons_append, List.nil_append]
    rw [octets, hexValue?_hexDigit (by omega), hexValue?_hexDigit (by omega)]
    simp only
    rw [hbyte, Utf8.octet, UInt8.ofNat_toNat]

theorem octets_encodeOctets (bs : List UInt8) : octets (bs.flatMap encodeOctet) = bs := by
  induction bs with
  | nil => rfl
  | cons b bs ih =>
      rw [List.flatMap_cons, octets_encodeOctet_append, ih]

/-- An encoded text is read back. -/
theorem decodeChars_encodeChars (s : List Char) : decodeChars (encodeChars s) = s := by
  rw [decodeChars, encodeChars, octets_encodeOctets, Utf8.decode_encode]

theorem decode_encode (s : String) : decode (encode s) = s := by
  rw [decode, encode, String.toList_ofList, decodeChars_encodeChars, String.ofList_toList]

theorem encode_injective : Function.Injective encode :=
  Function.LeftInverse.injective decode_encode

/-- Only code points that are a text have an encoding, and it is that of the text. -/
theorem encode?_eq_some_iff {s : WideText} {segment : String} :
    encode? s = some segment ↔ ∃ t : String, s = t ∧ encode t = segment := by
  simp only [encode?, Option.map_eq_some_iff, WideText.text?_eq_some_iff]

theorem encode?_eq_none_iff {s : WideText} : encode? s = none ↔ s.HasSurrogate := by
  rw [encode?, Option.map_eq_none_iff, WideText.text?_eq_none_iff]

/-- Code points that have an encoding are read back. -/
theorem ofString_decode_of_encode? {s : WideText} {segment : String}
    (h : encode? s = some segment) : decode segment = s := by
  obtain ⟨t, rfl, rfl⟩ := encode?_eq_some_iff.mp h
  rw [decode_encode]

def escapeDigits : List Char := "0123456789ABCDEF".toList

/-- Stands for itself in an encoded text. -/
def IsPlain (c : Char) : Prop :=
  c.isAlphanum = true ∨ c ∈ ['_', '.', '-', '~']

/-- A text of plain characters and escapes, and of nothing else. -/
inductive IsEncoded : List Char → Prop
  | nil : IsEncoded []
  | plain {c : Char} {rest : List Char} (hc : IsPlain c) (hrest : IsEncoded rest) :
      IsEncoded (c :: rest)
  | escape {x y : Char} {rest : List Char} (hx : x ∈ escapeDigits) (hy : y ∈ escapeDigits)
      (hrest : IsEncoded rest) : IsEncoded ('%' :: x :: y :: rest)

theorem isPlain_of_unreserved {n : Nat} (h : isUnreserved n = true) : IsPlain (Char.ofNat n) := by
  have hall : ∀ m < 0x80, isUnreserved m = true → IsPlain (Char.ofNat m) := by
    unfold IsPlain
    decide
  exact hall n (toNat_ofNat_of_unreserved h).2.1 h

theorem hexDigit_mem_escapeDigits {n : Nat} (h : n < 16) : hexDigit n ∈ escapeDigits := by
  revert n
  decide

theorem IsEncoded.encodeOctet_append (b : UInt8) {rest : List Char} (hrest : IsEncoded rest) :
    IsEncoded (encodeOctet b ++ rest) := by
  unfold encodeOctet
  split
  · rename_i hb
    exact .plain (isPlain_of_unreserved hb) hrest
  · have hlt := b.toNat_lt
    have hhigh : hexDigit (b.toNat / 16) ∈ escapeDigits := hexDigit_mem_escapeDigits (by omega)
    have hlow : hexDigit (b.toNat % 16) ∈ escapeDigits := hexDigit_mem_escapeDigits (by omega)
    exact .escape hhigh hlow hrest

theorem isEncoded_encodeOctets (bs : List UInt8) : IsEncoded (bs.flatMap encodeOctet) := by
  induction bs with
  | nil => exact .nil
  | cons b bs ih =>
      rw [List.flatMap_cons]
      exact ih.encodeOctet_append b

theorem isEncoded_encode (s : String) : IsEncoded (encode s).toList := by
  rw [encode, String.toList_ofList]
  exact isEncoded_encodeOctets _

/-- A character that an encoded text may hold: an unreserved one, or one of an escape. -/
def isSegmentChar (c : Char) : Bool :=
  isUnreserved c.toNat || c == '%'

theorem IsPlain.isSegmentChar {c : Char} (h : IsPlain c) : isSegmentChar c = true := by
  rcases h with hword | hmark
  · change (decide (65 ≤ c.val ∧ c.val ≤ 90) || (decide (97 ≤ c.val) && decide (c.val ≤ 122)) ||
      (decide (48 ≤ c.val) && decide (c.val ≤ 57))) = true at hword
    have hrange : ((65 ≤ c.toNat ∧ c.toNat ≤ 90) ∨ (97 ≤ c.toNat ∧ c.toNat ≤ 122)) ∨
        (48 ≤ c.toNat ∧ c.toNat ≤ 57) := by
      simpa [UInt32.le_iff_toNat_le] using hword
    simp only [Percent.isSegmentChar, isUnreserved, Bool.or_eq_true, Bool.and_eq_true,
      decide_eq_true_eq, beq_iff_eq]
    omega
  · simp only [List.mem_cons, List.not_mem_nil, or_false] at hmark
    rcases hmark with rfl | rfl | rfl | rfl <;> rfl

theorem isPlain_of_mem_escapeDigits {c : Char} (h : c ∈ escapeDigits) : IsPlain c :=
  .inl (List.all_eq_true.mp (show escapeDigits.all Char.isAlphanum = true by decide) c h)

theorem IsEncoded.isSegmentChar {s : List Char} (h : IsEncoded s) :
    ∀ c ∈ s, isSegmentChar c = true := by
  induction h with
  | nil => exact List.forall_mem_nil _
  | plain hc _ ih => exact List.forall_mem_cons.mpr ⟨hc.isSegmentChar, ih⟩
  | escape hx hy _ ih =>
      have hhigh := (isPlain_of_mem_escapeDigits hx).isSegmentChar
      have hlow := (isPlain_of_mem_escapeDigits hy).isSegmentChar
      exact List.forall_mem_cons.mpr
        ⟨rfl, List.forall_mem_cons.mpr ⟨hhigh, List.forall_mem_cons.mpr ⟨hlow, ih⟩⟩⟩

/-- An encoded text holds only characters of a segment. -/
theorem isSegmentChar_of_mem_encode {s : String} {c : Char} (h : c ∈ (encode s).toList) :
    isSegmentChar c = true :=
  (isEncoded_encode s).isSegmentChar c h

theorem not_mem_encode {c : Char} (h : isSegmentChar c = false) (s : String) :
    c ∉ (encode s).toList := by
  intro hc
  rw [isSegmentChar_of_mem_encode hc] at h
  cases h

theorem encode_ne_empty {s : String} (h : s ≠ "") : encode s ≠ "" := by
  intro hempty
  have hdecode := decode_encode s
  rw [hempty] at hdecode
  exact h (hdecode.symm.trans (by decide))

end HomeAutomation.Text.Percent
