import AccessReport.Number.Coordinate
import Mathlib

namespace AccessReport
namespace Single

open Float.Model (Format totalExponent UnpackedFloat)
open Float.Model.UnpackedFloat

-- What is left of an exact significand when bits are dropped from it.
theorem shiftRight_exact (m t : Nat) :
    ExtendedMantissa.ofMantissaAndAccuracy m .exact >>> (t + 1) =
      ⟨m / 2 ^ (t + 1), m / 2 ^ t % 2 != 0, m % 2 ^ t != 0⟩ := by
  induction t with
  | zero =>
    simp [ExtendedMantissa.ofMantissaAndAccuracy, HShiftRight.hShiftRight, Nat.repeat,
      ExtendedMantissa.shiftRightOne, Nat.mod_one]
  | succ t ih =>
    have hs : ExtendedMantissa.ofMantissaAndAccuracy m .exact >>> (t + 1 + 1) =
        (ExtendedMantissa.ofMantissaAndAccuracy m .exact >>> (t + 1)).shiftRightOne :=
      rfl
    rw [hs, ih, ExtendedMantissa.shiftRightOne, Nat.div_div_eq_div_mul, ← Nat.pow_succ,
      Nat.mod_pow_succ]
    congr 1
    rcases Nat.mod_two_eq_zero_or_one (m / 2 ^ t) with h | h <;> simp [h]

theorem roundedMantissa_mk (m : Nat) (round sticky : Bool) :
    (ExtendedMantissa.mk m round sticky).roundedMantissa =
      if round then (if sticky then m + 1 else m + m % 2) else m := by
  cases round <;> cases sticky <;> rfl

-- How many bits a product of two significands is too long by.
def surplus (m : Nat) : Nat :=
  if m < 2 ^ 47 then 23 else 24

theorem surplus_eq (m : Nat) :
    m < 2 ^ 47 ∧ surplus m = 23 ∨ 2 ^ 47 ≤ m ∧ surplus m = 24 := by
  unfold surplus
  split <;> omega

-- A product without these bits.
def roundedProduct (m : Nat) : Nat :=
  (ExtendedMantissa.ofMantissaAndAccuracy m .exact >>> surplus m).roundedMantissa

theorem roundedProduct_near (m : Nat) :
    2 * (roundedProduct m * 2 ^ surplus m) ≤ 2 * m + 2 ^ surplus m ∧
      2 * m ≤ 2 * (roundedProduct m * 2 ^ surplus m) + 2 ^ surplus m := by
  rw [roundedProduct]
  rcases surplus_eq m with ⟨_, ht⟩ | ⟨_, ht⟩ <;>
    rw [ht, shiftRight_exact, roundedMantissa_mk] <;>
    simp only [bne_iff_ne] <;> split <;> try split
  all_goals omega

-- The significand of a product, and what is added to the exponents. Where all bits are ones it is
-- rounded up to one bit more.
def significand (m : Nat) : Nat :=
  if roundedProduct m = 2 ^ 24 then 2 ^ 23 else roundedProduct m

def shift (m : Nat) : Nat :=
  if roundedProduct m = 2 ^ 24 then surplus m + 1 else surplus m

section Product

variable {m : Nat} {e : Int} (low : 2 ^ 46 ≤ m) (high : m < 2 ^ 48)
include low high

theorem roundedProduct_bounds : 2 ^ 23 ≤ roundedProduct m ∧ roundedProduct m ≤ 2 ^ 24 := by
  have hn := roundedProduct_near m
  rcases surplus_eq m with ⟨hm, ht⟩ | ⟨hm, ht⟩ <;> rw [ht] at hn <;> omega

theorem significand_bounds : 2 ^ 23 ≤ significand m ∧ significand m < 2 ^ 24 := by
  have hb := roundedProduct_bounds low high
  unfold significand
  split <;> omega

-- A product and what it is rounded to are half a unit apart at most.
theorem significand_near :
    shift m = 23 ∧ m < 2 ^ 47 ∧
        significand m * 2 ^ 23 ≤ m + 2 ^ 22 ∧ m ≤ significand m * 2 ^ 23 + 2 ^ 22 ∨
      shift m = 24 ∧ 2 ^ 47 ≤ m + 2 ^ 22 ∧
        significand m * 2 ^ 24 ≤ m + 2 ^ 23 ∧ m ≤ significand m * 2 ^ 24 + 2 ^ 23 ∨
      shift m = 25 ∧ 2 ^ 48 ≤ m + 2 ^ 23 ∧ significand m = 2 ^ 23 := by
  have hb := roundedProduct_bounds low high
  have hn := roundedProduct_near m
  unfold significand shift
  rcases surplus_eq m with ⟨hm, ht⟩ | ⟨hm, ht⟩ <;> rw [ht] at hn ⊢ <;> split <;> omega

theorem log2_product : m.log2 = surplus m + 23 := by
  rw [Nat.log2_eq_iff (by omega)]
  rcases surplus_eq m with ⟨hm, ht⟩ | ⟨hm, ht⟩ <;> rw [ht] <;> omega

theorem shiftToTargetExponent_product (he : -172 ≤ e) :
    shiftToTargetExponent Format.binary32 m e .exact =
      (ExtendedMantissa.ofMantissaAndAccuracy m .exact >>> surplus m, e + surplus m) := by
  have ht : Format.binary32.targetExponent (totalExponent m e) = e + surplus m := by
    simp only [Format.targetExponent, totalExponent, log2_product low high, Format.mantissaBits,
      Format.minExponent]
    have := surplus_eq m
    omega
  have hs : (e + surplus m - e).toNat = surplus m := by omega
  simp only [shiftToTargetExponent, ht, shiftToExponent, hs]

end Product

theorem shiftToTargetExponent_normal {m : Nat} {e : Int} (low : 2 ^ 23 ≤ m) (high : m < 2 ^ 24)
    (he : -149 ≤ e) : shiftToTargetExponent Format.binary32 m e .exact =
      (ExtendedMantissa.ofMantissaAndAccuracy m .exact, e) := by
  have hl : m.log2 = 23 := (Nat.log2_eq_iff (by omega)).2 ⟨low, high⟩
  have ht : Format.binary32.targetExponent (totalExponent m e) = e := by
    simp only [Format.targetExponent, totalExponent, hl, Format.mantissaBits, Format.minExponent]
    omega
  simp [shiftToTargetExponent, ht, shiftToExponent, HShiftRight.hShiftRight, Nat.repeat]

theorem shiftToTargetExponent_carry {e : Int} (he : -149 ≤ e) :
    shiftToTargetExponent Format.binary32 (2 ^ 24) e .exact = (⟨2 ^ 23, false, false⟩, e + 1) := by
  have ht : Format.binary32.targetExponent (totalExponent (2 ^ 24) e) = e + 1 := by
    simp only [Format.targetExponent, totalExponent, Nat.log2_two_pow, Format.mantissaBits,
      Format.minExponent]
    omega
  have hs : (e + 1 - e).toNat = 1 := by omega
  simp only [shiftToTargetExponent, ht, shiftToExponent, hs]
  rfl

theorem round_product {sign : Sign} {m : Nat} {e : Int} (low : 2 ^ 46 ≤ m) (high : m < 2 ^ 48)
    (he : -172 ≤ e) : roundWithAccuracy Format.binary32 sign m e .exact =
      .finite sign (significand m) (e + shift m)
        (Nat.lt_of_lt_of_le (by decide) (significand_bounds low high).1) := by
  have hb := roundedProduct_bounds low high
  have hs := surplus_eq m
  have hr : (ExtendedMantissa.ofMantissaAndAccuracy m .exact >>> surplus m).roundedMantissa =
      roundedProduct m :=
    rfl
  simp only [roundWithAccuracy, shiftToTargetExponent_product low high he, hr]
  by_cases hc : roundedProduct m = 2 ^ 24
  case pos =>
    have he' : e + surplus m + 1 = e + (surplus m + 1 : Nat) := by omega
    simp only [hc, shiftToTargetExponent_carry (e := e + surplus m) (by omega), significand, shift,
      if_pos, he']
    rfl
  case neg =>
    simp only [shiftToTargetExponent_normal hb.1 (Nat.lt_of_le_of_ne hb.2 hc)
      (e := e + surplus m) (by omega), significand, shift, if_neg hc]
    have hpos : roundedProduct m ≠ 0 := by omega
    exact dif_neg hpos

-- The leading bit of a full significand is not stored.
theorem toNat_significand {m : Nat} (low : 2 ^ 23 ≤ m) (high : m < 2 ^ 24) :
    (1#1 ++ BitVec.ofNat 23 m).toNat = m := by
  rw [BitVec.toNat_append, BitVec.toNat_ofNat, Nat.shiftLeft_eq]
  change 2 ^ 23 ||| m % 2 ^ 23 = m
  rw [Nat.or_comm, Nat.or_two_pow_eq_add_of_lt (Nat.mod_lt m (Nat.two_pow_pos 23))]
  omega

-- Numbers with a full significand come out of their bits as they went in.
theorem unpack_pack {m : Nat} {e : Int} (low : 2 ^ 23 ≤ m) (high : m < 2 ^ 24) (he : -149 ≤ e)
    (he' : e ≤ 104) (hm : 0 < m) :
    unpack Format.binary32 (pack Format.binary32 (.finite .positive m e hm)) =
      .finite .positive m e hm := by
  have hl : m.log2 = 23 := (Nat.log2_eq_iff (by omega)).2 ⟨low, high⟩
  have hexponent : e + (Format.binary32.exponentBias : Nat) + (23 : Nat) = e + 150 := by
    simp only [Format.exponentBias]
    omega
  have hfield : (BitVec.ofNat 8 (e + 150).toNat).toNat = (e + 150).toNat := by
    rw [BitVec.toNat_ofNat, Nat.mod_eq_of_lt (by omega)]
  have hne {b : BitVec 8} (h : (e + 150).toNat ≠ b.toNat) :
      BitVec.ofNat 8 (e + 150).toNat ≠ b := by
    rintro rfl
    exact h hfield.symm
  have hones := hne (b := -1#8) (show _ ≠ 255 by omega)
  have hzeros := hne (b := 0#8) (show _ ≠ 0 by omega)
  have hback : ((e + 150).toNat : Int) - ((Format.binary32.exponentBias : Nat) + (23 : Nat)) =
      e := by
    omega
  simp only [pack, hl, hexponent]
  rw [if_neg (by omega), if_pos (show 23 + 1 = Format.binary32.mantissaBits from rfl)]
  simp only [unpack, unpackMantissa_packComponents, unpackExponent_packComponents,
    unpackSign_packComponents]
  rw [if_neg hones, if_neg hzeros]
  simp only [toNat_significand low high, hfield, hback, Sign.ofBitVec_toBitVec]

-- A significand and an exponent that are stored. Only with the least exponent there are less than
-- 24 bits.
structure Stored (m : Nat) (e : Int) : Prop where
  low  : -149 ≤ e
  high : m < 2 ^ 24
  full : 2 ^ 23 ≤ m ∨ e = -149

theorem unpack_finite {x : Float32.Model} {sign : Sign} {m : Nat} {e : Int} {hm : 0 < m}
    (h : x.unpack = .finite sign m e hm) : Stored m e := by
  have hlt : (@unpackMantissa Format.binary32 x.toBits.toBitVec).toNat < 2 ^ 23 := BitVec.isLt _
  unfold Float32.Model.unpack unpack at h
  dsimp only at h
  split at h
  case isTrue => split at h <;> cases h
  case isFalse =>
    split at h
    case isTrue hz =>
      split at h
      case isTrue => cases h
      case isFalse =>
        injection h with _ hm he
        have he : (-149 : Int) = e := by
          rw [← he, hz]
          rfl
        exact ⟨by omega, by omega, .inr he.symm⟩
    case isFalse hz =>
      injection h with _ hm he
      rw [BitVec.toNat_append, Nat.shiftLeft_eq] at hm
      change 2 ^ 23 ||| (@unpackMantissa Format.binary32 x.toBits.toBitVec).toNat = m at hm
      rw [Nat.or_comm, Nat.or_two_pow_eq_add_of_lt hlt] at hm
      change ((@unpackExponent Format.binary32 x.toBits.toBitVec).toNat : Int) - (127 + 23) = e
        at he
      have hpos : (@unpackExponent Format.binary32 x.toBits.toBitVec).toNat ≠ 0 := fun h0 =>
        hz (BitVec.eq_of_toNat_eq h0)
      exact ⟨by omega, by omega, .inl (by omega)⟩

theorem lt_iff (x y : Float32) :
    x < y ↔ (x.toModel.unpack.compare y.toModel.unpack == some .lt) = true := by
  change decide (x.toModel < y.toModel) = true ↔ _
  rw [decide_eq_true_iff]
  rfl

theorem compare_positive {m m' : Nat} {e e' : Int} {hm : 0 < m} {hm' : 0 < m'} :
    (finite .positive m e hm).compare (finite .positive m' e' hm') == some .lt ↔
      e < e' ∨ e = e' ∧ m < m' := by
  simp only [Float.Model.UnpackedFloat.compare, beq_iff_eq, Option.some.injEq,
    Ordering.then_eq_lt, Int.compare_eq_lt, Int.compare_eq_eq, Nat.compare_eq_lt]

theorem toModel_mul (x y : Float32) : (x * y).toModel.unpack =
    unpack Format.binary32 (pack Format.binary32
      (mul Format.binary32 x.toModel.unpack y.toModel.unpack)) :=
  rfl

theorem toModel_sub (x y : Float32) : (x - y).toModel.unpack =
    unpack Format.binary32 (pack Format.binary32
      (sub Format.binary32 x.toModel.unpack y.toModel.unpack)) :=
  rfl

-- A positive number with a full significand.
structure IsNormal (x : Float32) (m : Nat) (e : Int) : Prop where
  low   : 2 ^ 23 ≤ m
  high  : m < 2 ^ 24
  parts : x.toModel.unpack = .finite .positive m e (Nat.lt_of_lt_of_le (by decide) low)

namespace IsNormal

variable {x y : Float32} {m m' : Nat} {e e' : Int}

theorem lt_iff (hx : IsNormal x m e) (hy : IsNormal y m' e') :
    x < y ↔ e < e' ∨ e = e' ∧ m < m' := by
  rw [Single.lt_iff, hx.parts, hy.parts, compare_positive]

theorem mul (hx : IsNormal x m e) (hy : IsNormal y m' e') (low : -172 ≤ e + e')
    (high : e + e' ≤ 79) :
    IsNormal (x * y) (significand (m * m')) (e + e' + shift (m * m')) := by
  have hlow : 2 ^ 23 * 2 ^ 23 ≤ m * m' := Nat.mul_le_mul hx.low hy.low
  have hhigh : m * m' < 2 ^ 24 * 2 ^ 24 := Nat.mul_lt_mul'' hx.high hy.high
  have hb := significand_bounds hlow hhigh
  have hs := significand_near hlow hhigh
  refine ⟨hb.1, hb.2, ?_⟩
  rw [toModel_mul, hx.parts, hy.parts]
  change unpack _ (pack _ (roundWithAccuracy _ .positive (m * m') (e + e') .exact)) = _
  rw [round_product hlow hhigh low, unpack_pack hb.1 hb.2 (by omega) (by omega)]

theorem zero_mul {z : Float32} (hx : IsNormal x m e) (hz : z.toModel.unpack = .zero .positive) :
    (z * x).toModel.unpack = .zero .positive := by
  rw [toModel_mul, hz, hx.parts]
  exact unpack_packedZero

end IsNormal

-- A product by a power of two is exact.
theorem significand_two_pow {m : Nat} (low : 2 ^ 23 ≤ m) (high : m < 2 ^ 24) :
    significand (m * 2 ^ 23) = m ∧ shift (m * 2 ^ 23) = 23 := by
  have hn := significand_near (m := m * 2 ^ 23) (by omega) (by omega)
  omega

-- What is no number makes everything no number.
theorem nan_mul {x : Float32} (y : Float32) (h : x.toModel.unpack = .notANumber) :
    x * y = .nan := by
  change Float32.ofModel (.pack (mul Format.binary32 x.toModel.unpack y.toModel.unpack)) = _
  rw [h]
  rfl

theorem mul_nan {x : Float32} (y : Float32) (h : x.toModel.unpack = .notANumber) :
    y * x = .nan := by
  change Float32.ofModel (.pack (mul Format.binary32 y.toModel.unpack x.toModel.unpack)) = _
  rw [h]
  cases y.toModel.unpack <;> rfl

end Single
end AccessReport
