import HomeAutomation.Text.Utf8

/-!
# Reading UTF-8 back

The reader takes back what the writer wrote (`decode_encode`). A character is read off its octets
whatever follows them (`decode_encodeChar_append`): the first octet tells how many more are owed and
in which range the next one lies, and each of the others adds six bits. The ranges are tight enough
that the first octet alone would not do; `lead_three` and `lead_four` carry the range of the second
octet along.
-/

namespace HomeAutomation.Text.Utf8

theorem toNat_octet {n : Nat} (h : n < 256) : (octet n).toNat = n := by
  rw [octet, UInt8.toNat_ofNat']
  exact Nat.mod_eq_of_lt h

theorem lead_one {n : Nat} (h : n < 0x80) : lead n = .whole (Char.ofNat n) := by
  rw [lead, if_pos h]

theorem lead_two {n : Nat} (h : 0x80 ≤ n) (h' : n < 0x800) :
    lead (0xC0 + n / 64) = .begins ⟨0, 0x80, 0xBF, n / 64⟩ := by
  rw [lead, if_neg (by omega), if_neg (by omega), if_pos (by omega), Nat.add_sub_cancel_left]

theorem lead_three {n : Nat} (h : 0x800 ≤ n) (h' : n < 0x10000)
    (hvalid : n < 0xD800 ∨ 0xDFFF < n) :
    ∃ low high, lead (0xE0 + n / 4096) = .begins ⟨1, low, high, n / 4096⟩ ∧
      low ≤ 0x80 + n / 64 % 64 ∧ 0x80 + n / 64 % 64 ≤ high := by
  unfold lead
  rw [if_neg (by omega), if_neg (by omega), if_neg (by omega)]
  split
  · have hzero : n / 4096 = 0 := by omega
    exact ⟨0xA0, 0xBF, by rw [hzero], by omega, by omega⟩
  · split
    · have hthirteen : n / 4096 = 0xD := by omega
      exact ⟨0x80, 0x9F, by rw [hthirteen], by omega, by omega⟩
    · rw [if_pos (by omega), Nat.add_sub_cancel_left]
      exact ⟨0x80, 0xBF, rfl, by omega, by omega⟩

theorem lead_four {n : Nat} (h : 0x10000 ≤ n) (h' : n < 0x110000) :
    ∃ low high, lead (0xF0 + n / 262144) = .begins ⟨2, low, high, n / 262144⟩ ∧
      low ≤ 0x80 + n / 4096 % 64 ∧ 0x80 + n / 4096 % 64 ≤ high := by
  unfold lead
  rw [if_neg (by omega), if_neg (by omega), if_neg (by omega), if_neg (by omega),
    if_neg (by omega), if_neg (by omega)]
  split
  · have hzero : n / 262144 = 0 := by omega
    exact ⟨0x90, 0xBF, by rw [hzero], by omega, by omega⟩
  · split
    · rw [Nat.add_sub_cancel_left]
      exact ⟨0x80, 0xBF, rfl, by omega, by omega⟩
    · have hfour : n / 262144 = 4 := by omega
      rw [if_pos (by omega)]
      exact ⟨0x80, 0x8F, by rw [hfour], by omega, by omega⟩

/-- The last octet of a character ends it. -/
theorem decodeAfter_last {low high value x : Nat} (hx : x < 64) (hlow : low ≤ 0x80 + x)
    (hhigh : 0x80 + x ≤ high) (rest : List UInt8) :
    decodeAfter ⟨0, low, high, value⟩ (octet (0x80 + x) :: rest) =
      Char.ofNat (value * 64 + x) :: decode rest := by
  have hoctet : (octet (0x80 + x)).toNat = 0x80 + x := toNat_octet (by omega)
  rw [decodeAfter, hoctet, if_pos ⟨hlow, hhigh⟩, Nat.add_sub_cancel_left]

/-- Any other octet adds six bits. -/
theorem decodeAfter_next {more low high value x : Nat} (hx : x < 64) (hlow : low ≤ 0x80 + x)
    (hhigh : 0x80 + x ≤ high) (rest : List UInt8) :
    decodeAfter ⟨more + 1, low, high, value⟩ (octet (0x80 + x) :: rest) =
      decodeAfter ⟨more, 0x80, 0xBF, value * 64 + x⟩ rest := by
  have hoctet : (octet (0x80 + x)).toNat = 0x80 + x := toNat_octet (by omega)
  rw [decodeAfter, hoctet, if_pos ⟨hlow, hhigh⟩, Nat.add_sub_cancel_left]

theorem toNat_valid (c : Char) :
    c.toNat < 0xD800 ∨ (0xDFFF < c.toNat ∧ c.toNat < 0x110000) :=
  c.valid

/-- A character is read off its octets, whatever follows them. -/
theorem decode_encodeChar_append (c : Char) (rest : List UInt8) :
    decode (encodeChar c ++ rest) = c :: decode rest := by
  have hvalid := toNat_valid c
  have hchar : Char.ofNat c.toNat = c := Char.ofNat_toNat c
  unfold encodeChar
  simp only
  generalize c.toNat = n at hvalid hchar
  split
  · have hlead := lead_one (n := n) (by omega)
    rw [List.singleton_append, decode, toNat_octet (by omega), hlead]
    simp [hchar]
  · split
    · have hlead := lead_two (n := n) (by omega) (by omega)
      have hvalue : n / 64 * 64 + n % 64 = n := by omega
      simp only [List.cons_append, List.nil_append]
      rw [decode, toNat_octet (by omega), hlead]
      simp only
      rw [decodeAfter_last (by omega) (by omega) (by omega), hvalue, hchar]
    · split
      · obtain ⟨low, high, hlead, hlow, hhigh⟩ :=
          lead_three (n := n) (by omega) (by omega) (by omega)
        have hvalue : (n / 4096 * 64 + n / 64 % 64) * 64 + n % 64 = n := by omega
        simp only [List.cons_append, List.nil_append]
        rw [decode, toNat_octet (by omega), hlead]
        simp only
        rw [decodeAfter_next (by omega) hlow hhigh,
          decodeAfter_last (by omega) (by omega) (by omega), hvalue, hchar]
      · obtain ⟨low, high, hlead, hlow, hhigh⟩ := lead_four (n := n) (by omega) (by omega)
        have hvalue : ((n / 262144 * 64 + n / 4096 % 64) * 64 + n / 64 % 64) * 64 + n % 64 = n := by
          omega
        simp only [List.cons_append, List.nil_append]
        rw [decode, toNat_octet (by omega), hlead]
        simp only
        rw [decodeAfter_next (by omega) hlow hhigh,
          decodeAfter_next (by omega) (by omega) (by omega),
          decodeAfter_last (by omega) (by omega) (by omega), hvalue, hchar]

/-- What was written in UTF-8 is read back. -/
theorem decode_encode (s : List Char) : decode (encode s) = s := by
  induction s with
  | nil => simp [encode, decode]
  | cons c s ih =>
      rw [encode, List.flatMap_cons, decode_encodeChar_append, ← encode, ih]

end HomeAutomation.Text.Utf8
