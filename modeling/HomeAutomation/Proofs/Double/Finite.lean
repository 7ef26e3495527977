import Mathlib
import HomeAutomation.Number

/-!
# Sums and differences that stay finite

A number is packed without overflow when its exponent is at most 971 (`Fits`). Rounding keeps the
exponent there as long as the exact value is below the middle between the largest double and the
next power of two (`fits_round`), and a double plus or minus a number below `2 ^ 970` is
(`two_mul_add_lt`). So a finite double plus or minus a small number is finite (`isFinite_add`,
`isFinite_sub`).
-/

namespace HomeAutomation

open Float.Model Float.Model.UnpackedFloat

namespace Binary64

/-- A mantissa before any bit of it has been given up. -/
abbrev whole (m : Nat) : ExtendedMantissa :=
  .ofMantissaAndAccuracy m .exact

theorem shiftRight_succ (em : ExtendedMantissa) (n : Nat) :
    em >>> (n + 1) = (em >>> n).shiftRightOne := rfl

theorem mantissa_shiftRight (m n : Nat) : (whole m >>> n).mantissa = m / 2 ^ n := by
  induction n with
  | zero => exact (Nat.div_one m).symm
  | succ n ih =>
      rw [shiftRight_succ, ExtendedMantissa.shiftRightOne, ih, Nat.div_div_eq_div_mul, Nat.pow_succ]

theorem roundBit_shiftRight_succ (m n : Nat) :
    (whole m >>> (n + 1)).roundBit = (m / 2 ^ n % 2 != 0) := by
  rw [shiftRight_succ, ExtendedMantissa.shiftRightOne, mantissa_shiftRight]

theorem roundedMantissa_le (em : ExtendedMantissa) :
    em.roundedMantissa ≤ em.mantissa + em.roundBit.toNat := by
  obtain ⟨m, round, sticky⟩ := em
  cases round <;> cases sticky <;>
    simp [ExtendedMantissa.roundedMantissa, ExtendedMantissa.accuracy, Accuracy.roundToNearestEven]
  omega

/-- What is less than half a step above `m` steps is not rounded above `m`. -/
theorem roundedMantissa_shiftRight_le {m n bound : Nat} (h : 2 * m < (2 * bound + 1) * 2 ^ n) :
    (whole m >>> n).roundedMantissa ≤ bound := by
  refine Nat.le_trans (roundedMantissa_le _) ?_
  cases n with
  | zero =>
      have hround : (whole m >>> 0).roundBit = false := rfl
      rw [mantissa_shiftRight, hround]
      simp at h ⊢
      omega
  | succ n =>
      rw [mantissa_shiftRight, roundBit_shiftRight_succ, Nat.pow_succ, ← Nat.div_div_eq_div_mul]
      have hquot : m / 2 ^ n < 2 * bound + 1 := by
        rw [Nat.pow_succ, ← Nat.mul_assoc, Nat.mul_comm 2 m] at h
        exact (Nat.div_lt_iff_lt_mul (Nat.two_pow_pos n)).mpr (Nat.lt_of_mul_lt_mul_right h)
      have hbit : (m / 2 ^ n % 2 != 0).toNat = m / 2 ^ n % 2 := by
        rcases Nat.mod_two_eq_zero_or_one (m / 2 ^ n) with h0 | h1
        · rw [h0]
          rfl
        · rw [h1]
          rfl
      rw [hbit]
      omega

/-- The exponent that a number is brought to. -/
abbrev target (m : Nat) (e : Int) : Int :=
  Format.binary64.targetExponent (totalExponent m e)

theorem target_eq (m : Nat) (e : Int) : target m e = max (m.log2 + e - 52) (-1074) := by
  simp only [target, Format.targetExponent, totalExponent, Format.mantissaBits,
    Format.minExponent]
  omega

/-- A number of which nothing overflows when it is packed. -/
def Fits : UnpackedFloat → Prop
  | .zero _ => True
  | .finite _ _ e _ => e ≤ 971
  | _ => False

theorem isFinite_unpack_of_exponent_ne {bits : BitVec Format.binary64.numBits}
    (h : unpackExponent bits ≠ -1#_) : (UnpackedFloat.unpack Format.binary64 bits).isFinite := by
  rw [UnpackedFloat.unpack]
  simp only [if_neg h]
  split
  · split
    · rfl
    · rfl
  · rfl

theorem isFinite_pack {u : UnpackedFloat} (h : Fits u) : (Float.Model.pack u).isFinite := by
  apply isFinite_unpack_of_exponent_ne
  show unpackExponent (UnpackedFloat.pack Format.binary64 u) ≠ -1#_
  cases u with
  | infinity s => cases h
  | notANumber => cases h
  | zero s =>
      rw [UnpackedFloat.pack, packedZero, unpackExponent_packComponents]
      decide
  | finite s m e hm =>
      have he : e ≤ 971 := h
      have hbiased : (e + 1023 + 52).toNat < 2047 := by omega
      rw [UnpackedFloat.pack]
      split
      · rename_i hover
        exact absurd (Nat.lt_of_lt_of_le (Nat.succ_lt_succ hbiased) hover) (Nat.lt_irrefl _)
      · split
        · rw [unpackExponent_packComponents]
          intro hexponent
          have hnat : (e + 1023 + 52).toNat % 2048 = 2047 := congrArg BitVec.toNat hexponent
          rw [Nat.mod_eq_of_lt (Nat.lt_trans hbiased (by decide))] at hnat
          exact absurd hnat (Nat.ne_of_lt hbiased)
        · rw [unpackExponent_packComponents]
          decide

/-- A finite number within the bounds of the format. -/
def IsBounded : UnpackedFloat → Prop
  | .zero _ => True
  | .finite _ m e _ => m < 2 ^ 53 ∧ e ≤ 971
  | _ => False

theorem isBounded_unpack {bits : BitVec Format.binary64.numBits}
    (h : (UnpackedFloat.unpack Format.binary64 bits).isFinite) :
    IsBounded (UnpackedFloat.unpack Format.binary64 bits) := by
  have hfraction : (unpackMantissa bits).toNat < 2 ^ 52 := (unpackMantissa bits).isLt
  have hexponent : (unpackExponent bits).toNat < 2 ^ 11 := (unpackExponent bits).isLt
  unfold UnpackedFloat.unpack at h ⊢
  dsimp only at h ⊢
  split
  · rename_i hones
    rw [if_pos hones] at h
    split at h <;> cases h
  · rename_i hones
    have hne : (unpackExponent bits).toNat ≠ 2047 := fun hmax =>
      hones (BitVec.eq_of_toNat_eq hmax)
    split
    · split
      · trivial
      · rename_i hzero _
        have hnat : (unpackExponent bits).toNat = 0 := congrArg BitVec.toNat hzero
        exact ⟨by omega, by show ((unpackExponent bits).toNat : Int) - 1075 + 1 ≤ 971; omega⟩
    · have hwhole : (1#1 ++ unpackMantissa bits).toNat = 2 ^ 52 + (unpackMantissa bits).toNat := by
        rw [BitVec.toNat_append, ← Nat.shiftLeft_add_eq_or_of_lt hfraction]
        rfl
      exact ⟨by rw [hwhole]; omega, by show ((unpackExponent bits).toNat : Int) - 1075 ≤ 971; omega⟩

theorem shiftToTargetExponent_eq (m : Nat) (e : Int) :
    shiftToTargetExponent Format.binary64 m e .exact =
      (whole m >>> (target m e - e).toNat, e + (target m e - e).toNat) := rfl

theorem log2_le_of_lt {m k : Nat} (h : m < 2 ^ (k + 1)) : m.log2 ≤ k := by
  by_cases hm : m = 0
  · simp [hm]
  · exact Nat.le_of_lt_succ ((Nat.log2_lt hm).mpr h)

/-- A number below the middle between the largest number of the format and the next power of two
is rounded to a number of the format. -/
theorem fits_roundWithAccuracy {s : Sign} {m : Nat} {e : Int} (he : e ≤ target m e)
    (hmax : target m e ≤ 971) (hm : 2 * m < (2 ^ 54 - 1) * 2 ^ (971 - e).toNat) :
    Fits (roundWithAccuracy Format.binary64 s m e .exact) := by
  -- Rounding gives up `n` bits, and there are `k` steps from there to the largest exponent.
  obtain ⟨n, hn⟩ : ∃ n, n = (target m e - e).toNat := ⟨_, rfl⟩
  obtain ⟨k, hk⟩ : ∃ k, k = (971 - target m e).toNat := ⟨_, rfl⟩
  have hrounded : (whole m >>> n).roundedMantissa ≤ 2 ^ (52 + k + 1) - 1 := by
    apply roundedMantissa_shiftRight_le
    have hsteps : (971 - e).toNat = k + n := by omega
    rw [hsteps, Nat.pow_add, ← Nat.mul_assoc] at hm
    refine Nat.lt_of_lt_of_le hm (Nat.mul_le_mul_right _ ?_)
    have hpow : 2 ^ 54 * 2 ^ k = 2 * 2 ^ (52 + k + 1) := by
      rw [← Nat.pow_add, ← Nat.pow_succ']
      congr 1
      omega
    have hpos := Nat.two_pow_pos k
    have hpos' := Nat.two_pow_pos (52 + k + 1)
    rw [Nat.sub_mul, hpow]
    omega
  have hexponent : target (whole m >>> n).roundedMantissa (e + n) ≤ 971 := by
    have hlog : (whole m >>> n).roundedMantissa.log2 ≤ 52 + k :=
      log2_le_of_lt (Nat.lt_of_le_pred (Nat.two_pow_pos _) hrounded)
    rw [target_eq]
    omega
  unfold roundWithAccuracy
  simp only [shiftToTargetExponent_eq, ← hn]
  split
  · trivial
  · show e + n + (target (whole m >>> n).roundedMantissa (e + n) - (e + n)).toNat ≤ 971
    omega

theorem log2_shiftLeft {m : Nat} (hm : m ≠ 0) (j : Nat) : (m <<< j).log2 = m.log2 + j := by
  have hself := (Nat.log2_eq_iff hm).mp rfl
  have hpos := Nat.two_pow_pos j
  rw [Nat.shiftLeft_eq, Nat.log2_eq_iff (Nat.mul_ne_zero hm (Nat.ne_of_gt hpos))]
  constructor
  · rw [Nat.pow_add]
    exact Nat.mul_le_mul_right _ hself.1
  · rw [Nat.add_right_comm, Nat.pow_add]
    exact Nat.mul_lt_mul_of_pos_right hself.2 hpos

theorem fits_round {s : Sign} {m : Nat} {e : Int} (hpos : 0 < m) (he : e ≤ 971)
    (hm : 2 * m < (2 ^ 54 - 1) * 2 ^ (971 - e).toNat) :
    Fits (UnpackedFloat.round Format.binary64 s m e) := by
  -- The exponent is first lowered by `j`, which changes neither the value nor its target.
  obtain ⟨j, hj⟩ : ∃ j, j = (e - target m e).toNat := ⟨_, rfl⟩
  have hlog : m.log2 ≤ 52 + (971 - e).toNat := by
    apply log2_le_of_lt
    have hpow : 2 ^ (52 + (971 - e).toNat + 1) = 2 ^ 53 * 2 ^ (971 - e).toNat := by
      rw [← Nat.pow_add]
      congr 1
      omega
    omega
  have htarget : target (m <<< j) (e - j) = target m e := by
    rw [target_eq, target_eq, log2_shiftLeft (Nat.ne_of_gt hpos)]
    omega
  unfold UnpackedFloat.round decreaseExponent
  simp only [← hj]
  apply fits_roundWithAccuracy
  · rw [htarget]
    omega
  · rw [htarget, target_eq]
    omega
  · have hsteps : (971 - (e - j)).toNat = (971 - e).toNat + j := by omega
    rw [hsteps, Nat.pow_add, ← Nat.mul_assoc, Nat.shiftLeft_eq, ← Nat.mul_assoc]
    exact Nat.mul_lt_mul_of_pos_right hm (Nat.two_pow_pos j)

theorem fits_normalize {m : Int} {e : Int} {zero : Sign} (he : e ≤ 971)
    (hm : 2 * m.natAbs < (2 ^ 54 - 1) * 2 ^ (971 - e).toNat) :
    Fits (UnpackedFloat.normalize Format.binary64 m e zero) := by
  unfold UnpackedFloat.normalize
  cases hcompare : compare m 0 with
  | lt =>
      have hneg : m < 0 := Int.compare_eq_lt.mp hcompare
      have habs : (-m).toNat = m.natAbs := by omega
      rw [habs]
      exact fits_round (by omega) he hm
  | eq => trivial
  | gt =>
      have hpos : 0 < m := Int.compare_eq_gt.mp hcompare
      have habs : m.toNat = m.natAbs := by omega
      rw [habs]
      exact fits_round (by omega) he hm

/-- Next to any number of the format, a small one is less than half of a last step. -/
theorem two_mul_add_lt {m n : Nat} {d e : Int} (hm : m < 2 ^ 53) (hd : d ≤ 971) (hn : n < 2 ^ 53)
    (he : e ≤ 917) :
    2 * (m <<< (d - min d e).toNat + n <<< (e - min d e).toNat) <
      (2 ^ 54 - 1) * 2 ^ (971 - min d e).toNat := by
  have hfirst : m <<< (d - min d e).toNat ≤ (2 ^ 53 - 1) * 2 ^ (971 - min d e).toNat := by
    rw [Nat.shiftLeft_eq]
    exact Nat.mul_le_mul (Nat.le_pred_of_lt hm) (Nat.pow_le_pow_right (by decide) (by omega))
  have hsecond : 2 * (n <<< (e - min d e).toNat) < 2 ^ (971 - min d e).toNat := by
    have hpow : 2 ^ 54 * 2 ^ (e - min d e).toNat ≤ 2 ^ (971 - min d e).toNat := by
      rw [← Nat.pow_add]
      exact Nat.pow_le_pow_right (by decide) (by omega)
    have hstep := Nat.mul_lt_mul_of_pos_right hn (Nat.two_pow_pos (e - min d e).toNat)
    rw [Nat.shiftLeft_eq]
    omega
  omega

theorem natAbs_apply (s : Sign) (n : Int) : (s.apply n).natAbs = n.natAbs := by
  cases s with
  | negative => exact Int.natAbs_neg n
  | positive => rfl

variable {u : UnpackedFloat} {s : Sign} {m : Nat} {e : Int} {hpos : 0 < m}

theorem fits_add (hu : IsBounded u) (hm : m < 2 ^ 53) (he : e ≤ 917) :
    Fits (UnpackedFloat.add Format.binary64 u (.finite s m e hpos)) := by
  cases u with
  | infinity s => cases hu
  | notANumber => cases hu
  | zero s => exact Int.le_trans he (by decide)
  | finite s' n d hn =>
      obtain ⟨hmantissa, hexponent⟩ := hu
      have hbound := two_mul_add_lt hmantissa hexponent hm he
      refine fits_normalize (by omega) (Nat.lt_of_le_of_lt (Nat.mul_le_mul_left 2 ?_) hbound)
      refine Nat.le_trans (Int.natAbs_add_le _ _) ?_
      rw [natAbs_apply, natAbs_apply]
      exact Nat.le_refl _

theorem fits_sub (hu : IsBounded u) (hm : m < 2 ^ 53) (he : e ≤ 917) :
    Fits (UnpackedFloat.sub Format.binary64 u (.finite s m e hpos)) := by
  cases u with
  | infinity s => cases hu
  | notANumber => cases hu
  | zero s => exact Int.le_trans he (by decide)
  | finite s' n d hn =>
      obtain ⟨hmantissa, hexponent⟩ := hu
      have hbound := two_mul_add_lt hmantissa hexponent hm he
      refine fits_normalize (by omega) (Nat.lt_of_le_of_lt (Nat.mul_le_mul_left 2 ?_) hbound)
      refine Nat.le_trans (Int.natAbs_sub_le _ _) ?_
      rw [natAbs_apply, natAbs_apply]
      exact Nat.le_refl _

theorem toNat_unpackExponent (bits : BitVec Format.binary64.numBits) :
    (unpackExponent bits).toNat = bits.toNat / 2 ^ 52 % 2048 := by
  rw [unpackExponent, BitVec.toNat_cast, BitVec.extractLsb_toNat, Nat.shiftRight_eq_div_pow]
  rfl

/-- A number that is small and not zero. -/
def IsSmall (x : Float) : Prop :=
  ∃ s m e hpos, x.toModel.unpack = .finite s m e hpos ∧ m < 2 ^ 53 ∧ e ≤ 917

variable {x y : Float}

theorem isFinite_add (hx : x.isFinite) (hy : IsSmall y) : (x + y).isFinite := by
  obtain ⟨s, m, e, hpos, hunpack, hm, he⟩ := hy
  show (Float.Model.pack
    (UnpackedFloat.add Format.binary64 x.toModel.unpack y.toModel.unpack)).isFinite
  rw [hunpack]
  exact isFinite_pack (fits_add (isBounded_unpack hx) hm he)

theorem isFinite_sub (hx : x.isFinite) (hy : IsSmall y) : (x - y).isFinite := by
  obtain ⟨s, m, e, hpos, hunpack, hm, he⟩ := hy
  show (Float.Model.pack
    (UnpackedFloat.sub Format.binary64 x.toModel.unpack y.toModel.unpack)).isFinite
  rw [hunpack]
  exact isFinite_pack (fits_sub (isBounded_unpack hx) hm he)

theorem isFinite_of_exact {negative : Bool} {m : Nat} {e : Int}
    (h : Exact.ofDouble x = .finite negative m e) : x.isFinite := by
  apply isFinite_unpack_of_exponent_ne
  intro hones
  have hnat := toNat_unpackExponent x.toModel.toBits.toBitVec
  rw [hones] at hnat
  have hbiased : x.toBits.toNat / Nat.pow 2 52 % 2048 = 2047 := hnat.symm
  simp only [Exact.ofDouble, hbiased] at h
  split at h
  · split at h
    · cases h
    · cases h
  · contradiction

end Binary64

end HomeAutomation
