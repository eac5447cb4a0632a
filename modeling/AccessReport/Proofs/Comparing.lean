import AccessReport.Proofs.Rounding

namespace AccessReport
namespace Single

open Coordinate
open Float.Model (Format UnpackedFloat)
open Float.Model.UnpackedFloat

variable {x y low high : Float32} {m : Nat} {e : Int}

theorem isNumber_iff : isNumber x = true ↔ x.toModel.unpack ≠ .notANumber := by
  change (!x.toModel.unpack.isNaN) = true ↔ _
  cases x.toModel.unpack <;> simp [UnpackedFloat.isNaN]

theorem isFinite_cases (h : isFinite x = true) :
    (∃ s, x.toModel.unpack = .zero s) ∨ ∃ s m e hm, x.toModel.unpack = .finite s m e hm := by
  change x.toModel.unpack.isFinite = true at h
  cases hx : x.toModel.unpack with
  | notANumber | infinity =>
    rw [hx] at h
    cases h
  | zero s => exact .inl ⟨s, rfl⟩
  | finite s m e hm => exact .inr ⟨s, m, e, hm, rfl⟩

theorem isNumber_of_isFinite (h : isFinite x = true) : isNumber x = true := by
  rw [isNumber_iff]
  obtain ⟨s, hx⟩ | ⟨s, m, e, hm, hx⟩ := isFinite_cases h <;> rw [hx] <;> exact nofun

/-! ### Order -/

theorem compare_swap (u v : UnpackedFloat) : v.compare u = (u.compare v).map Ordering.swap := by
  cases u with
  | notANumber => cases v <;> rfl
  | infinity s => cases s <;> cases v with
    | infinity t => cases t <;> rfl
    | _ => rfl
  | zero => cases v with
    | infinity t | finite t => cases t <;> rfl
    | _ => rfl
  | finite s m e => cases v with
    | notANumber | zero => cases s <;> rfl
    | infinity t => cases s <;> cases t <;> rfl
    | finite t m' e' =>
      have hswap : (compare e' e).then (compare m' m) =
          ((compare e e').then (compare m m')).swap := by
        rw [Ordering.swap_then, Int.compare_swap, Nat.compare_swap]
      cases s <;> cases t <;> simp [UnpackedFloat.compare, hswap]

-- Any two numbers can be compared.
theorem exists_compare {u v : UnpackedFloat} (hu : u ≠ .notANumber) (hv : v ≠ .notANumber) :
    ∃ o, u.compare v = some o := by
  rw [← Option.isSome_iff_exists]
  cases u with
  | notANumber => exact absurd rfl hu
  | infinity s => cases s <;> cases v with
    | notANumber => exact absurd rfl hv
    | _ => rfl
  | zero => cases v with
    | notANumber => exact absurd rfl hv
    | infinity t | finite t => cases t <;> rfl
    | zero => rfl
  | finite s => cases v with
    | notANumber => exact absurd rfl hv
    | infinity t | finite t => cases s <;> cases t <;> rfl
    | zero => cases s <;> rfl

theorem le_iff (x y : Float32) :
    x ≤ y ↔ (x.toModel.unpack.compare y.toModel.unpack).any (·.isLE) = true := by
  change decide (x.toModel ≤ y.toModel) = true ↔ _
  rw [decide_eq_true_iff]
  rfl

theorem not_le_iff (hx : isNumber x = true) (hy : isNumber y = true) : ¬x ≤ y ↔ y < x := by
  obtain ⟨o, ho⟩ := exists_compare (isNumber_iff.1 hx) (isNumber_iff.1 hy)
  rw [le_iff, lt_iff, compare_swap x.toModel.unpack, ho]
  cases o <;> decide

theorem not_lt_iff (hx : isNumber x = true) (hy : isNumber y = true) : ¬x < y ↔ y ≤ x := by
  rw [← not_le_iff hy hx, not_not]

-- Nothing is at most, or below, what is no number.
theorem isNumber_of_le (h : x ≤ y) : isNumber x = true ∧ isNumber y = true := by
  rw [le_iff] at h
  simp only [isNumber_iff]
  constructor <;> intro hn <;> rw [hn] at h
  · cases h
  · rw [compare_swap .notANumber] at h
    cases h

theorem le_of_lt (h : x < y) : x ≤ y := by
  rw [lt_iff, beq_iff_eq] at h
  rw [le_iff, h]
  rfl

-- What lies between finite numbers is finite.
theorem isFinite_of_le (hlow : isFinite low = true) (hhigh : isFinite high = true) (hl : low ≤ x)
    (hh : x ≤ high) : isFinite x = true := by
  rw [le_iff] at hl hh
  change x.toModel.unpack.isFinite = true
  cases hx : x.toModel.unpack with
  | zero | finite => rfl
  | notANumber =>
    rw [hx] at hh
    cases hh
  | infinity s =>
    rw [hx] at hl hh
    cases s with
    | positive =>
      obtain ⟨t, hu⟩ | ⟨t, m, e, hm, hu⟩ := isFinite_cases hhigh
      all_goals
        rw [hu] at hh
        cases hh
    | negative =>
      obtain ⟨t, hu⟩ | ⟨t, m, e, hm, hu⟩ := isFinite_cases hlow
      all_goals
        rw [hu] at hl
        cases t <;> cases hl

theorem lt_asymm (h : x < y) : ¬y < x :=
  have ⟨hx, hy⟩ := isNumber_of_le (le_of_lt h)
  (not_lt_iff hy hx).2 (le_of_lt h)

/-! ### Bounds -/

theorem smaller_eq_left (h : x < y) : smaller x y = x := by
  simp [smaller, h]

theorem smaller_eq_right (h : y < x) : smaller x y = y := by
  simp [smaller, lt_asymm h, (isNumber_of_le (le_of_lt h)).1]

theorem larger_eq_left (h : y < x) : larger x y = x := by
  simp [larger, h]

theorem larger_eq_right (h : x < y) : larger x y = y := by
  simp [larger, lt_asymm h, (isNumber_of_le (le_of_lt h)).2]

-- Two numbers that are apart are each one of the two bounds.
theorem bounds_cases (h : smaller x y < larger x y) :
    smaller x y = x ∧ larger x y = y ∨ smaller x y = y ∧ larger x y = x := by
  have hsmaller : smaller x y = x ∨ smaller x y = y := ite_eq_or_eq ..
  have hlarger : larger x y = x ∨ larger x y = y := ite_eq_or_eq ..
  obtain hs | hs := hsmaller <;> obtain hl | hl := hlarger
  · rw [hs, hl] at h
    exact absurd h (lt_asymm h)
  · exact .inl ⟨hs, hl⟩
  · exact .inr ⟨hs, hl⟩
  · rw [hs, hl] at h
    exact absurd h (lt_asymm h)

-- What is cut to two bounds is a number if it was one.
theorem isNumber_clamp (hl : isNumber low = true) (hh : isNumber high = true) :
    isNumber (clamp low high x) = isNumber x := by
  unfold clamp
  split
  case isTrue h => rw [hl, (isNumber_of_le (le_of_lt h)).1]
  case isFalse =>
    split
    case isTrue h => rw [hh, (isNumber_of_le (le_of_lt h)).2]
    case isFalse => rfl

theorem clamp_bounds (h : low ≤ high) (hx : isNumber x = true) :
    low ≤ clamp low high x ∧ clamp low high x ≤ high := by
  have ⟨hl, hh⟩ := isNumber_of_le h
  have hrefl {y : Float32} (hy : isNumber y = true) : y ≤ y := by
    rw [← not_lt_iff hy hy, lt_iff, beq_iff_eq]
    intro hlt
    have := compare_swap y.toModel.unpack y.toModel.unpack
    rw [hlt] at this
    cases this
  unfold clamp
  split
  case isTrue => exact ⟨hrefl hl, h⟩
  case isFalse hlow =>
    split
    case isTrue => exact ⟨h, hrefl hh⟩
    case isFalse hhigh => exact ⟨(not_lt_iff hx hl).1 hlow, (not_lt_iff hh hx).1 hhigh⟩

/-! ### Arithmetic -/

-- What is finite before it is stored is a number when it is read, however large it is.
theorem isNaN_unpack_pack (u : UnpackedFloat) :
    (unpack Format.binary32 (pack Format.binary32 u)).isNaN = u.isNaN := by
  have hne {b : BitVec Format.binary32.numBits} (h : (unpackExponent b).toNat ≠ 255) :
      (unpack Format.binary32 b).isNaN = false := by
    have hones : unpackExponent b ≠ -1#_ := fun hb => h <| by rw [hb]; rfl
    unfold unpack
    rw [if_neg hones]
    split <;> try split
    all_goals rfl
  cases u with
  | notANumber => rfl
  | infinity s | zero s => cases s <;> rfl
  | finite s m e =>
    unfold pack
    dsimp only
    generalize (e + _ + _).toNat = n
    split
    case isTrue => cases s <;> rfl
    case isFalse hlt =>
      change ¬2 ^ 8 ≤ n + 1 at hlt
      have hn : n % 2 ^ 8 ≠ 255 := by omega
      split <;> refine hne ?_ <;> rw [unpackExponent_packComponents]
      · rwa [BitVec.toNat_ofNat]
      · decide

theorem isNaN_roundWithAccuracy (s : Sign) (m : Nat) (e : Int) (a : Accuracy) :
    (roundWithAccuracy Format.binary32 s m e a).isNaN = false := by
  unfold roundWithAccuracy
  dsimp only
  split <;> rfl

theorem isNaN_normalize (m e : Int) (s : Sign) :
    (UnpackedFloat.normalize Format.binary32 m e s).isNaN = false := by
  unfold UnpackedFloat.normalize
  split
  case h_2 => rfl
  all_goals exact isNaN_roundWithAccuracy ..

theorem isNumber_sub (hx : isFinite x = true) (hy : isNumber y = true) :
    isNumber (x - y) = true := by
  have hs : isNumber (x - y) = !(sub Format.binary32 x.toModel.unpack y.toModel.unpack).isNaN :=
    congrArg not (isNaN_unpack_pack _)
  rw [hs, Bool.not_eq_true']
  obtain ⟨s, hu⟩ | ⟨s, m, e, hm, hu⟩ := isFinite_cases hx <;> rw [hu]
  · cases hv : y.toModel.unpack with
    | notANumber => exact absurd hv (isNumber_iff.1 hy)
    | infinity t | finite t => rfl
    | zero t => cases s <;> cases t <;> rfl
  · cases hv : y.toModel.unpack with
    | notANumber => exact absurd hv (isNumber_iff.1 hy)
    | infinity | zero => rfl
    | finite => exact isNaN_normalize ..

theorem isNumber_mul_eq (x y : Float32) : isNumber (x * y) =
    !(UnpackedFloat.mul Format.binary32 x.toModel.unpack y.toModel.unpack).isNaN :=
  congrArg not (isNaN_unpack_pack _)

theorem isNumber_mul (hx : isFinite x = true) (hy : isFinite y = true) :
    isNumber (x * y) = true := by
  rw [isNumber_mul_eq, Bool.not_eq_true']
  obtain ⟨s, hu⟩ | ⟨s, m, e, hm, hu⟩ := isFinite_cases hx <;>
    obtain ⟨t, hv⟩ | ⟨t, m', e', hm', hv⟩ := isFinite_cases hy <;> rw [hu, hv]
  case inr.inr => exact isNaN_roundWithAccuracy ..
  all_goals rfl

theorem unpack_pack_infinity (s : Sign) :
    unpack Format.binary32 (pack Format.binary32 (.infinity s)) = .infinity s := by
  cases s <;> rfl

theorem IsNormal.isNumber_mul (hx : IsNormal x m e) (hy : isNumber y = true) :
    isNumber (x * y) = true := by
  rw [isNumber_mul_eq, Bool.not_eq_true', hx.parts]
  cases hv : y.toModel.unpack with
  | notANumber => exact absurd hv (isNumber_iff.1 hy)
  | infinity | zero => rfl
  | finite => exact isNaN_roundWithAccuracy ..

theorem IsNormal.mul_infinity (hx : IsNormal x m e) (hy : y.toModel.unpack = .infinity .positive) :
    (x * y).toModel.unpack = .infinity .positive := by
  rw [toModel_mul, hx.parts, hy]
  exact unpack_pack_infinity .positive

-- Nothing is below what is left of a finite number when infinity is taken away.
theorem not_lt_sub_infinity (hx : isFinite x = true)
    (hy : y.toModel.unpack = .infinity .positive) (z : Float32) : ¬z < x - y := by
  have hsub : (x - y).toModel.unpack = .infinity .negative := by
    rw [toModel_sub, hy]
    obtain ⟨s, hu⟩ | ⟨s, m, e, hm, hu⟩ := isFinite_cases hx <;> rw [hu] <;>
      exact unpack_pack_infinity .negative
  rw [lt_iff, hsub, beq_iff_eq]
  cases z.toModel.unpack with
  | infinity s | finite s => cases s <;> exact nofun
  | notANumber | zero => exact nofun

/-! ### The sign of a difference -/

-- More than nothing; it may be infinite.
inductive Positive : UnpackedFloat → Prop where
  | infinity : Positive (.infinity .positive)
  | finite {m : Nat} {e : Int} {hm : 0 < m} : Positive (.finite .positive m e hm)

theorem zero_lt_iff (x : Float32) : Coordinate.zero < x ↔ Positive x.toModel.unpack := by
  have hzero : (Coordinate.zero : Float32).toModel.unpack = .zero .positive := rfl
  rw [lt_iff, hzero, beq_iff_eq]
  constructor
  case mp =>
    intro h
    cases hx : x.toModel.unpack with
    | notANumber | zero =>
      rw [hx] at h
      cases h
    | infinity s | finite s =>
      rw [hx] at h
      cases s
      case negative => cases h
      case positive => constructor
  case mpr =>
    intro h
    generalize x.toModel.unpack = u at h
    cases h <;> rfl

namespace Positive

theorem sign_eq {b : BitVec Format.binary32.numBits} (h : Positive (unpack Format.binary32 b)) :
    Sign.ofBitVec (unpackSign b) = .positive := by
  unfold unpack at h
  dsimp only at h
  generalize Sign.ofBitVec (unpackSign b) = s at *
  repeat' split at h
  all_goals cases h
  all_goals rfl

-- A number is stored with its sign.
theorem of_unpack_pack {u : UnpackedFloat}
    (h : Positive (unpack Format.binary32 (pack Format.binary32 u))) : Positive u := by
  cases u with
  | notANumber => cases h
  | zero s => cases s <;> cases h
  | infinity s => cases s with
    | positive => constructor
    | negative => cases h
  | finite s m e hm => cases s with
    | positive => constructor
    | negative =>
      have hs := h.sign_eq
      unfold pack at hs
      dsimp only at hs
      split at hs
      case isTrue => cases hs
      case isFalse => split at hs <;> rw [unpackSign_packComponents] at hs <;> cases hs

theorem of_round {s : Sign} (h : Positive (UnpackedFloat.round Format.binary32 s m e)) :
    s = .positive := by
  unfold UnpackedFloat.round roundWithAccuracy at h
  dsimp only at h
  split at h <;> cases h
  rfl

theorem of_normalize {n : Int} {s : Sign}
    (h : Positive (UnpackedFloat.normalize Format.binary32 n e s)) : 0 < n := by
  unfold UnpackedFloat.normalize at h
  split at h
  case h_1 => cases h.of_round
  case h_2 => cases h
  case h_3 hn => exact Int.compare_eq_gt.1 hn

end Positive

-- What is larger with the less of two exponents is larger with its own.
theorem Stored.lt_of_scaled_lt {m' : Nat} {e' : Int} (h : Stored m e) (h' : Stored m' e')
    (hlt : m' * 2 ^ (e' - min e e').toNat < m * 2 ^ (e - min e e').toNat) :
    e' < e ∨ e' = e ∧ m' < m := by
  obtain he | rfl | he := lt_trichotomy e' e
  · exact .inl he
  · exact .inr ⟨rfl, by simpa using hlt⟩
  · obtain ⟨hlow, hhigh, -⟩ := h
    have hfull : 2 ^ 23 ≤ m' := h'.full.resolve_right (by omega)
    have hpow : 2 ^ 1 ≤ 2 ^ (e' - e).toNat := Nat.pow_le_pow_right (by decide) (by omega)
    have hmul := Nat.mul_le_mul hfull hpow
    rw [min_eq_left he.le, sub_self, Int.toNat_zero, pow_zero, mul_one] at hlt
    omega

theorem Stored.compare_eq_lt {s t : Sign} {m' : Nat} {e' : Int} {hm : 0 < m} {hm' : 0 < m'}
    (h : Stored m e) (h' : Stored m' e')
    (hpos : 0 < s.apply ↑(decreaseExponent m e (min e e')).1 -
      t.apply ↑(decreaseExponent m' e' (min e e')).1) :
    (UnpackedFloat.finite t m' e' hm').compare (.finite s m e hm) = some .lt := by
  simp only [decreaseExponent, Nat.shiftLeft_eq] at hpos
  cases s <;> cases t <;> simp only [Sign.apply] at hpos
  case negative.negative =>
    -- both are told like the numbers without signs, the other way round
    rw [min_comm] at hpos
    have hlt : (UnpackedFloat.finite .positive m e hm).compare (.finite .positive m' e' hm') =
        some .lt :=
      beq_iff_eq.1 (compare_positive.2 (h'.lt_of_scaled_lt h (by omega)))
    rw [compare_swap] at hlt
    exact hlt
  case negative.positive => omega
  case positive.negative => rfl
  case positive.positive =>
    exact beq_iff_eq.1 (compare_positive.2 (h.lt_of_scaled_lt h' (by omega)))

theorem compare_eq_lt_of_sub {u v : UnpackedFloat} (h : Positive (sub Format.binary32 v u))
    (hu : ∀ s m e hm, u = .finite s m e hm → Stored m e)
    (hv : ∀ s m e hm, v = .finite s m e hm → Stored m e) : u.compare v = some .lt := by
  cases v with
  | notANumber => cases h
  | infinity s => cases u with
    | notANumber => cases h
    | infinity t =>
      cases s <;> cases t <;> cases h
      rfl
    | zero | finite =>
      cases s <;> cases h
      rfl
  | zero s => cases u with
    | notANumber => cases h
    | zero t => cases s <;> cases t <;> cases h
    | infinity t | finite t =>
      cases t <;> cases h
      rfl
  | finite s m e hm => cases u with
    | notANumber => cases h
    | infinity t =>
      cases t <;> cases h
      rfl
    | zero t =>
      cases h
      rfl
    | finite t m' e' hm' =>
      exact (hv s m e hm rfl).compare_eq_lt (hu t m' e' hm' rfl) h.of_normalize

theorem lt_of_sub_pos (h : Coordinate.zero < y - x) : x < y := by
  rw [zero_lt_iff, toModel_sub] at h
  rw [lt_iff, beq_iff_eq]
  exact compare_eq_lt_of_sub h.of_unpack_pack (fun _ _ _ _ => unpack_finite)
    fun _ _ _ _ => unpack_finite

end Single
end AccessReport
