import Mathlib
import HomeAutomation.Number

/-!
# Numbers in a range

Two numbers compare in one of three ways, or not at all if one of them is not a number. Turned
round, a comparison has the swapped result (`Exact.compare?_swap`), so `eqv` has no direction. A
number that is put into a range lies in it, whatever it was before (`Number.clamp_isIn`), and it
keeps its value if it was in the range already (`Number.clamp_eqv`).
-/

namespace HomeAutomation

namespace Exact

theorem compare?_swap (a b : Exact) : b.compare? a = (a.compare? b).map Ordering.swap := by
  cases a with
  | undefined => cases b <;> rfl
  | infinite negative =>
      cases b with
      | undefined => rfl
      | infinite other => cases negative <;> cases other <;> rfl
      | finite => cases negative <;> rfl
  | finite negative m d =>
      cases b with
      | undefined => rfl
      | infinite other => cases other <;> rfl
      | finite other n e =>
          have hswap (k l : Int) : compare l k = (compare k l).swap := Std.OrientedCmp.eq_swap
          simp only [compare?, Option.map_some, Int.min_comm d e]
          rw [hswap]

theorem compare?_ofInt (m n : Int) : (ofInt m).compare? (ofInt n) = some (compare m n) := by
  have hnumerator (k : Int) : numerator 0 (k < 0) k.natAbs 0 = k := by
    have hscale : k.natAbs * Nat.pow 2 (0 - 0 : Int).toNat = k.natAbs := Nat.mul_one _
    rw [numerator, hscale]
    by_cases hk : k < 0
    · rw [decide_eq_true hk, if_pos rfl]
      omega
    · rw [decide_eq_false hk, if_neg Bool.false_ne_true]
      omega
  simp only [ofInt, compare?, Int.min_self, hnumerator]

theorem mantissa_eq_zero {negative : Bool} {m : Nat} {e : Int}
    (h : compare? (.finite negative m e) (.ofInt 0) = some .eq) : m = 0 := by
  have hnumerator : numerator (min e 0) negative m e = 0 := by
    simpa [compare?, ofInt, numerator, Int.compare_eq_eq] using h
  have hpos : 0 < Nat.pow 2 (e - min e 0).toNat := Nat.two_pow_pos _
  have hscaled : m * Nat.pow 2 (e - min e 0).toNat = 0 := by
    simp only [numerator] at hnumerator
    split at hnumerator <;> omega
  exact (Nat.mul_eq_zero.mp hscaled).resolve_right (Nat.ne_of_gt hpos)

/-- Of a double without a mantissa all bits are off, but perhaps the sign. -/
theorem toBits_of_mantissa_eq_zero {x : Float} {negative : Bool} {e : Int}
    (h : ofDouble x = .finite negative 0 e) :
    x.toBits = (0.0 : Float).toBits ∨ x.toBits = (-0.0 : Float).toBits := by
  have hzero : (0.0 : Float).toBits.toNat = 0 := by decide +kernel
  have hminus : (-0.0 : Float).toBits.toNat = 2 ^ 63 := by decide +kernel
  have hlt : x.toBits.toNat < 2 ^ 64 := x.toBits.toNat_lt
  have hpow : Nat.pow 2 52 = 4503599627370496 := rfl
  rw [← UInt64.toNat_inj, ← UInt64.toNat_inj, hzero, hminus]
  simp only [ofDouble, hpow] at h
  split at h
  · split at h <;> cases h
  · split at h
    · have hfraction := (finite.inj h).2.1
      omega
    · have hfraction := (finite.inj h).2.1
      omega

end Exact

namespace Number

variable {a b : Number}

theorem le_iff_lt_or_eqv : a.le b = true ↔ a.lt b = true ∨ a.eqv b = true := by
  unfold le lt eqv
  cases a.exact.compare? b.exact with
  | none => simp
  | some order => cases order <;> simp

theorem le_of_lt (h : a.lt b = true) : a.le b = true :=
  le_iff_lt_or_eqv.mpr (.inl h)

theorem eqv_comm (a b : Number) : a.eqv b = b.eqv a := by
  unfold eqv
  rw [b.exact.compare?_swap a.exact]
  cases b.exact.compare? a.exact with
  | none => rfl
  | some order => cases order <;> rfl

/-- What compares at all is equal to itself. -/
theorem eqv_self_of_le (h : a.le b = true) : b.eqv b = true := by
  unfold le at h
  unfold eqv
  cases hb : b.exact with
  | undefined => cases ha : a.exact <;> simp [ha, hb, Exact.compare?] at h
  | infinite negative => simp [Exact.compare?]
  | finite negative m e => simp [Exact.compare?, Std.ReflCmp.compare_self]

theorem int_le_int_iff {m n : Int} : (int m).le (int n) = true ↔ m ≤ n := by
  rw [le, exact, exact, Exact.compare?_ofInt]
  cases h : compare m n with
  | lt => simpa using Int.le_of_lt (Int.compare_eq_lt.mp h)
  | eq => simpa using Int.le_of_eq (Int.compare_eq_eq.mp h)
  | gt => simpa using Int.compare_eq_gt.mp h

theorem int_lt_int_iff {m n : Int} : (int m).lt (int n) = true ↔ m < n := by
  rw [lt, exact, exact, Exact.compare?_ofInt]
  simp [Int.compare_eq_lt]

/-- The number lies in the closed range between two whole numbers. -/
structure IsIn (n : Number) (low high : Int) : Prop where
  le : (int low).le n = true
  ge : n.le (int high) = true

section Clamp

variable {low high : Int} (hrange : low < high)
include hrange

/-- Whatever is put into a range lies in it. -/
theorem clamp_isIn (value : Number) : (value.clamp (.int low) (.int high)).IsIn low high := by
  have hends : (int low).lt (int high) = true := int_lt_int_iff.mpr hrange
  have hle : low ≤ high := Int.le_of_lt hrange
  unfold clamp larger smaller
  by_cases habove : (int low).lt value = true
  · rw [if_pos habove]
    by_cases hbelow : value.lt (int high) = true
    · rw [if_pos hbelow]
      exact ⟨le_of_lt habove, le_of_lt hbelow⟩
    · rw [if_neg hbelow]
      exact ⟨int_le_int_iff.mpr hle, int_le_int_iff.mpr (Int.le_refl high)⟩
  · rw [if_neg habove, if_pos hends]
    exact ⟨int_le_int_iff.mpr (Int.le_refl low), int_le_int_iff.mpr hle⟩

/-- What lies in the range already keeps its value. At an end of the range it may become the whole
number that stands there. -/
theorem clamp_eqv {value : Number} (h : value.IsIn low high) :
    (value.clamp (.int low) (.int high)).eqv value = true := by
  have hends : (int low).lt (int high) = true := int_lt_int_iff.mpr hrange
  unfold clamp larger smaller
  by_cases habove : (int low).lt value = true
  · rw [if_pos habove]
    by_cases hbelow : value.lt (int high) = true
    · rw [if_pos hbelow]
      exact eqv_self_of_le h.le
    · rw [if_neg hbelow, eqv_comm]
      exact (le_iff_lt_or_eqv.mp h.ge).resolve_left hbelow
  · rw [if_neg habove, if_pos hends]
    exact (le_iff_lt_or_eqv.mp h.le).resolve_left habove

end Clamp

theorem isZero_double_iff {x : Float} : (double x).isZero = true ↔ x = 0.0 ∨ x = -0.0 := by
  constructor
  · intro h
    simp only [isZero, eqv, exact, beq_iff_eq] at h
    cases hx : Exact.ofDouble x with
    | undefined => simp [hx, Exact.compare?] at h
    | infinite negative => cases negative <;> simp [hx, Exact.ofInt, Exact.compare?] at h
    | finite negative m e =>
        rw [hx] at h
        obtain rfl := Exact.mantissa_eq_zero h
        rw [← Float.toBits_inj, ← Float.toBits_inj]
        exact Exact.toBits_of_mantissa_eq_zero hx
  · rintro (rfl | rfl) <;> decide +kernel

theorem isZero_hundredth {x : Float} (h : (double x).isZero = true) :
    (double (x / 100.0)).isZero = true := by
  rcases isZero_double_iff.mp h with rfl | rfl <;> decide +kernel

end Number

end HomeAutomation
