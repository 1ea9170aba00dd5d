import AgentGraph.Json.Reader
import Mathlib

/-! The doubles that decimal numbers are read as.

Arithmetic on doubles unpacks them, computes and packs the result. What is packed becomes infinite
only if it is, or if its exponent is too large, and rounding adds to an exponent no more than the
digits that it drops.

* `nearestFloat_isNaN`: a decimal number is never read as something that is no number.
* `nearestFloat_isFinite`: a whole number of 64 bits is read as a finite double.
* `isFinite_neg`: a sign does not matter. -/
namespace AgentGraph.Decimal

set_option autoImplicit false

open Float.Model (Format UnpackedFloat totalExponent)
open Float.Model.UnpackedFloat

abbrev binary64 : Format := Format.binary64

/-! ## Packing -/

/-- Zero, or a number with no larger exponent. -/
def InRange (k : Int) : UnpackedFloat → Prop
  | .zero _ => True
  | .finite _ _ e _ => e ≤ k
  | _ => False

section Packing

variable {k : Int} {b : BitVec binary64.numBits} {u : UnpackedFloat}

theorem InRange.isFinite (h : InRange k u) : u.isFinite := by
  cases u with
  | zero | finite => rfl
  | _ => cases h

theorem pack_of_large {s : Sign} {m : Nat} {e : Int} {hm : 0 < m} (he : 971 < e) :
    (finite s m e hm).pack binary64 = packedInfinity binary64 s := by
  refine if_pos ?_
  change 2048 ≤ (e + 1023 + 52).toNat + 1
  omega

theorem pack_of_small {s : Sign} {m : Nat} {e : Int} {hm : 0 < m} (he : e ≤ 971) :
    (finite s m e hm).pack binary64 =
      if m.log2 + 1 = binary64.mantissaBits then
        packComponents binary64 s (.ofNat _ (e + 1075).toNat) (.ofNat _ m)
      else packComponents binary64 s 0 (.ofNat _ m) := by
  have hsum : e + 1023 + 52 = e + 1075 := by omega
  rw [← hsum]
  refine if_neg ?_
  change ¬ 2048 ≤ (e + 1023 + 52).toNat + 1
  omega

/-- The exponent field of what is packed. -/
theorem exponent_pack (h : InRange k u) (hlow : -1075 ≤ k) (hhigh : k ≤ 971) :
    ((unpackExponent (u.pack binary64)).toNat : Int) ≤ k + 1075 := by
  cases u with
  | zero s =>
    rw [UnpackedFloat.pack, packedZero, unpackExponent_packComponents]
    change ((0 : Nat) : Int) ≤ _
    omega
  | finite s m e hm =>
    have he : e ≤ k := h
    rw [pack_of_small (Int.le_trans he hhigh)]
    split
    · rw [unpackExponent_packComponents, BitVec.toNat_ofNat]
      have hle := Nat.mod_le (e + 1075).toNat (2 ^ binary64.exponentBits)
      omega
    · rw [unpackExponent_packComponents]
      change ((0 : Nat) : Int) ≤ _
      omega
  | _ => cases h

theorem inRange_unpack (hlow : -1074 ≤ k) (hhigh : k ≤ 971)
    (h : ((unpackExponent b).toNat : Int) ≤ k + 1075) : InRange k (.unpack binary64 b) := by
  have hfull : unpackExponent b ≠ -1#_ := by
    intro heq
    rw [heq] at h
    change ((2047 : Nat) : Int) ≤ _ at h
    omega
  have hbias : (binary64.exponentBias : Int) = 1023 := rfl
  unfold UnpackedFloat.unpack
  simp only [if_neg hfull, hbias]
  split
  · next hzero =>
    split
    · trivial
    · rw [hzero]
      change ((0 : Nat) : Int) - 1075 + 1 ≤ k
      omega
  · simp only [InRange]
    omega

theorem exponent_of_isFinite (h : (UnpackedFloat.unpack binary64 b).isFinite) :
    ((unpackExponent b).toNat : Int) ≤ 971 + 1075 := by
  have hlt : (unpackExponent b).toNat < 2048 := (unpackExponent b).isLt
  have hfull : (unpackExponent b).toNat ≠ 2047 := by
    intro heq
    have hfull : unpackExponent b = -1#_ := BitVec.eq_of_toNat_eq heq
    unfold UnpackedFloat.unpack at h
    simp only [if_pos hfull] at h
    split at h <;> cases h
  omega

theorem InRange.unpack_pack (h : InRange k u) (hlow : -1074 ≤ k) (hhigh : k ≤ 971) :
    InRange k (.unpack binary64 (u.pack binary64)) :=
  inRange_unpack hlow hhigh (exponent_pack h (by omega) hhigh)

theorem InRange.isNaN (h : InRange k u) : u.isNaN = false := by
  cases u with
  | zero | finite => rfl
  | _ => cases h

theorem isNaN_packedInfinity (s : Sign) :
    (UnpackedFloat.unpack binary64 (packedInfinity binary64 s)).isNaN = false := by
  cases s <;> decide

theorem isNaN_unpack_pack (h : u.isNaN = false) :
    (UnpackedFloat.unpack binary64 (u.pack binary64)).isNaN = false := by
  cases u with
  | notANumber => cases h
  | infinity s => exact isNaN_packedInfinity s
  | zero s => cases s <;> decide
  | finite s m e hm =>
    by_cases he : e ≤ 971
    · have hrange : InRange 971 (finite s m e hm) := he
      exact (hrange.unpack_pack (by decide) (by decide)).isNaN
    · rw [pack_of_large (Int.not_le.mp he)]
      exact isNaN_packedInfinity s

end Packing

/-! ## Rounding -/

section Rounding

variable {k : Int} {s : Sign} {m : Nat} {e : Int} {accuracy : Accuracy}

theorem mantissa_shiftRight_le (em : ExtendedMantissa) (n : Nat) :
    (em >>> n).mantissa ≤ em.mantissa := by
  induction n with
  | zero => exact Nat.le_refl _
  | succ n ih => exact Nat.le_trans (Nat.div_le_self _ 2) ih

theorem roundedMantissa_le (em : ExtendedMantissa) : em.roundedMantissa ≤ em.mantissa + 1 := by
  rcases em with ⟨m, r, s⟩
  cases r <;> cases s <;> simp only [ExtendedMantissa.roundedMantissa, ExtendedMantissa.accuracy,
    Accuracy.roundToNearestEven] <;> omega

theorem log2_lt_of_lt {w : Nat} (hw : 0 < w) (hm : m < 2 ^ w) : m.log2 < w := by
  by_cases hzero : m = 0
  · subst hzero
    exact hw
  · exact (Nat.log2_lt hzero).mpr hm

/-- Shifting adds no more to an exponent than there are digits. -/
theorem shiftToTargetExponent_le {w : Nat} (a : Accuracy) (hw : 0 < w) (hm : m < 2 ^ w)
    (hk : -1074 ≤ k) (he : e ≤ k) : (shiftToTargetExponent binary64 m e a).1.mantissa ≤ m ∧
      (shiftToTargetExponent binary64 m e a).2 ≤ k + w := by
  have hlog := log2_lt_of_lt hw hm
  constructor
  · refine Nat.le_trans (mantissa_shiftRight_le _ _) ?_
    cases a with
    | exact => exact Nat.le_refl _
    | inexact o => cases o <;> exact Nat.le_refl _
  · change e + ((max (m.log2 + 1 + e - 53) (-1074) - e).toNat : Int) ≤ k + w
    omega

theorem roundWithAccuracy_inRange {w : Nat} (hw : 0 < w) (hm : m < 2 ^ w) (hk : -1074 ≤ k)
    (he : e ≤ k) : InRange (k + 2 * w + 1) (roundWithAccuracy binary64 s m e accuracy) := by
  obtain ⟨hm₁, he₁⟩ := shiftToTargetExponent_le accuracy hw hm hk he
  unfold roundWithAccuracy
  generalize shiftToTargetExponent binary64 m e accuracy = first at hm₁ he₁ ⊢
  obtain ⟨em, e₁⟩ := first
  dsimp only at hm₁ he₁ ⊢
  -- Rounding up may carry into one more digit, so the result is shifted once more.
  have hrounded : em.roundedMantissa < 2 ^ (w + 1) := by
    have hle := roundedMantissa_le em
    rw [Nat.pow_succ]
    omega
  obtain ⟨-, he₂⟩ := shiftToTargetExponent_le .exact (Nat.succ_pos w) hrounded (by omega)
    he₁
  generalize shiftToTargetExponent binary64 em.roundedMantissa e₁ .exact = second at he₂ ⊢
  obtain ⟨em₂, e₂⟩ := second
  dsimp only at he₂ ⊢
  split
  · trivial
  · simp only [InRange]
    omega

theorem roundWithAccuracy_isNaN :
    (roundWithAccuracy binary64 s m e accuracy).isNaN = false := by
  unfold roundWithAccuracy
  dsimp only
  split <;> rfl

/-- A whole number of 64 bits that is rounded has a small exponent. -/
theorem round_inRange (hm : m < 2 ^ 64) : InRange 257 (round binary64 s m 0) := by
  have hlog := log2_lt_of_lt (by decide) hm
  have hshift : (0 - (max ((m.log2 : Int) + 1 + 0 - 53) (-1074))).toNat ≤ 64 := by omega
  have hmantissa : m <<< (0 - (max ((m.log2 : Int) + 1 + 0 - 53) (-1074))).toNat < 2 ^ 128 := by
    rw [Nat.shiftLeft_eq]
    calc m * 2 ^ _ < 2 ^ 64 * 2 ^ _ := Nat.mul_lt_mul_of_pos_right hm (Nat.two_pow_pos _)
      _ ≤ 2 ^ 64 * 2 ^ 64 := Nat.mul_le_mul_left _ (Nat.pow_le_pow_right (by decide) hshift)
      _ = 2 ^ 128 := by decide
  exact roundWithAccuracy_inRange (k := 0) (by decide) hmantissa (by decide) (by omega)

end Rounding

/-! ## Signs -/

theorem isFinite_neg {x : Float} (h : x.isFinite) : (-x).isFinite := by
  have hrange : InRange 971 x.toModel.unpack :=
    inRange_unpack (by decide) (by decide) (exponent_of_isFinite h)
  have hneg : InRange 971 x.toModel.unpack.neg := by
    cases hu : x.toModel.unpack with
    | zero => trivial
    | finite =>
      rw [hu] at hrange
      exact hrange
    | _ =>
      rw [hu] at hrange
      cases hrange
  exact (hneg.unpack_pack (by decide) (by decide)).isFinite

/-! ## Products and quotients -/

section Products

variable {u v : UnpackedFloat}

/-- The mantissa has so many bits. -/
def Width (w : Nat) : UnpackedFloat → Prop
  | .finite _ m _ _ => m < 2 ^ w
  | _ => True

theorem width_unpack (b : BitVec binary64.numBits) : Width 53 (.unpack binary64 b) := by
  unfold UnpackedFloat.unpack
  dsimp only
  split
  · split <;> trivial
  · split
    · split
      · trivial
      · exact Nat.lt_trans (unpackMantissa b).isLt (by decide)
    · exact (1#1 ++ unpackMantissa b).isLt

theorem mul_finite_inRange {k l e e' : Int} {w w' m m' : Nat} {s s' : Sign} {hm : 0 < m}
    {hm' : 0 < m'} (hmw : m < 2 ^ w) (hmw' : m' < 2 ^ w') (he : e ≤ k) (he' : e' ≤ l) (hw : 0 < w)
    (hlow : -1074 ≤ k + l) : InRange (k + l + 2 * (w + w' : Nat) + 1)
      ((finite s m e hm).mul binary64 (finite s' m' e' hm')) := by
  have hproduct : m * m' < 2 ^ (w + w') := by
    rw [Nat.pow_add]
    exact Nat.mul_lt_mul'' hmw hmw'
  exact roundWithAccuracy_inRange (Nat.add_pos_left hw w') hproduct hlow (Int.add_le_add he he')

theorem mul_inRange {k l : Int} {w w' : Nat} (hu : InRange k u) (hv : InRange l v) (hw : 0 < w)
    (huw : Width w u) (hvw : Width w' v) (hlow : -1074 ≤ k + l) :
    InRange (k + l + 2 * (w + w' : Nat) + 1) (u.mul binary64 v) := by
  cases u with
  | infinity | notANumber => cases hu
  | zero =>
    cases v with
    | infinity | notANumber => cases hv
    | zero | finite => trivial
  | finite =>
    cases v with
    | infinity | notANumber => cases hv
    | zero => trivial
    | finite => exact mul_finite_inRange huw hvw hu hv hw hlow

/-- Neither zero nor infinite, and a number. -/
def Proper (u : UnpackedFloat) : Prop := ∃ s m e hm, u = finite s m e hm

theorem isNaN_mul (hu : u.isNaN = false) (hv : Proper v) : (u.mul binary64 v).isNaN = false := by
  obtain ⟨s, m, e, hm, rfl⟩ := hv
  cases u with
  | notANumber => cases hu
  | infinity | zero => rfl
  | finite => exact roundWithAccuracy_isNaN

theorem isNaN_div (hu : u.isNaN = false) (hv : Proper v) : (u.div binary64 v).isNaN = false := by
  obtain ⟨s, m, e, hm, rfl⟩ := hv
  cases u with
  | notANumber => cases hu
  | infinity | zero => rfl
  | finite => exact roundWithAccuracy_isNaN

end Products

/-! ## Decimal numbers -/

theorem ofUInt64_inRange (n : UInt64) : InRange 257 (.ofUInt64 binary64 n) := by
  have hlt := n.toNat_lt
  unfold UnpackedFloat.ofUInt64 UnpackedFloat.ofNat UnpackedFloat.ofInt UnpackedFloat.normalize
  split
  · exact round_inRange (by omega)
  · trivial
  · exact round_inRange (by omega)

theorem toFloat_inRange (n : UInt64) : InRange 257 n.toFloat.toModel.unpack :=
  (ofUInt64_inRange n).unpack_pack (by decide) (by decide)

/-- Whether a double is neither zero nor infinite and a number, by its fields. -/
def isProper (x : Float) : Bool :=
  match x.toModel.unpack with
  | .finite _ _ _ _ => true
  | _ => false

theorem proper_of_isProper {x : Float} (h : isProper x) : Proper x.toModel.unpack := by
  unfold isProper at h
  split at h
  · next s m e hm hx => exact ⟨s, m, e, hm, hx⟩
  · cases h

theorem isProper_powersOfTen : ∀ (e : Nat) (he : e < Float.exactlyRepresentablePowersOfTen.size),
    isProper (Float.exactlyRepresentablePowersOfTen[e]) := by
  decide +kernel

theorem isNaN_unpackedOfScientific (m : Nat) (e : Int) :
    (UnpackedFloat.ofScientific binary64 m e).isNaN = false := by
  unfold UnpackedFloat.ofScientific
  split
  · rfl
  · split
    · rfl
    · split
      · rfl
      · split
        · exact isNaN_mul rfl ⟨_, _, _, _, rfl⟩
        · exact isNaN_div rfl ⟨_, _, _, _, rfl⟩

theorem ofScientific_isNaN (m : Nat) (negative : Bool) (e : Nat) :
    (Float.ofScientific m negative e).isNaN = false := by
  unfold Float.ofScientific
  split
  · next h =>
    have hpower := proper_of_isProper (isProper_powersOfTen e (Nat.lt_succ_of_le h.2))
    dsimp only
    split
    · exact isNaN_unpack_pack (isNaN_div (toFloat_inRange _).isNaN hpower)
    · exact isNaN_unpack_pack (isNaN_mul (toFloat_inRange _).isNaN hpower)
  · exact isNaN_unpack_pack (isNaN_unpackedOfScientific m _)

theorem nearestFloat_isNaN (m : Nat) (e : Int) : (nearestFloat m e).isNaN = false := by
  unfold nearestFloat
  dsimp only
  split
  · decide
  · split
    · decide +kernel
    · split
      · decide
      · exact ofScientific_isNaN _ _ _

theorem ofScientific_inRange {m : Nat} (hm : m < 2 ^ 64) :
    InRange 184 (.ofScientific binary64 m 0) := by
  have hbits : binary64.mantissaBits = 53 := rfl
  have hmantissa : m * 2 ^ binary64.mantissaBits < 2 ^ 117 := by
    rw [hbits]
    omega
  have hexponent : -(binary64.mantissaBits : Int) ≤ -53 := by
    rw [hbits]
    decide
  unfold UnpackedFloat.ofScientific
  split
  · trivial
  · -- As a product the shifted mantissa is not unfolded bit by bit.
    simp only [Nat.shiftLeft_eq]
    rw [if_neg (by decide), if_neg (by omega), if_pos (Int.le_refl 0)]
    have hone : 1 < 2 ^ 1 := by decide
    exact mul_finite_inRange hmantissa hone hexponent (Int.le_refl 0) (by decide) (by decide)

theorem ofScientific_isFinite {m : Nat} (hm : m < 2 ^ 64) :
    (Float.ofScientific m false 0).isFinite := by
  unfold Float.ofScientific
  split
  · have hone : InRange 0 (Float.exactlyRepresentablePowersOfTen[0].toModel.unpack) := by
      change (-52 : Int) ≤ 0
      decide
    have hproduct := mul_inRange (toFloat_inRange m.toUInt64) hone (by decide) (width_unpack _)
      (width_unpack _) (by decide)
    exact (hproduct.unpack_pack (by decide) (by decide)).isFinite
  · exact ((ofScientific_inRange hm).unpack_pack (by decide) (by decide)).isFinite

/-- A whole number of 64 bits is read as a finite double. -/
theorem nearestFloat_isFinite {m : Nat} (hm : m < twoTo 64) : (nearestFloat m 0).isFinite := by
  have hlength : (Nat.toDigits 10 m).length ≤ 20 :=
    (Nat.length_toDigits_le_iff (by decide) (by decide)).mpr (Nat.lt_trans hm (by decide))
  unfold nearestFloat
  dsimp only
  split
  · decide
  · rw [if_neg (by omega), if_neg (by omega)]
    exact ofScientific_isFinite hm

end AgentGraph.Decimal
