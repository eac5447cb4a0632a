import AccessReport.Report.Options
import AccessReport.Proofs.Comparing

namespace AccessReport

open Coordinate
open Single (isNumber_of_isFinite isNumber_of_le isFinite_of_le not_le_iff)

namespace Options

section Made

variable {α : Type} [Coordinate α]

-- Options as they are set, one after the other, from those for a date.
inductive Made : Options α → Prop
  | ofDate (date : Calendar.Date) : Made (.ofDate date)
  | pageSize {o : Options α} (size : PageSize α) : Made o → Made (o.withPageSize size)
  | margin {o : Options α} (margin : α) : Made o → Made (o.withMargin margin)
  | fontSize {o : Options α} (size : α) : Made o → Made (o.withFontSize size)
  | headingFontSize {o : Options α} (size : α) : Made o → Made (o.withHeadingFontSize size)
  | lineSpacing {o : Options α} (spacing : α) : Made o → Made (o.withLineSpacing spacing)
  | imageProportion {o : Options α} (proportion : α) :
      Made o → Made (o.withImageProportion proportion)
  | compression {o : Options α} (compress : Bool) : Made o → Made (o.withCompression compress)
  | reportDate {o : Options α} (date : Calendar.Date) : Made o → Made (o.withReportDate date)

end Made

/-! ### Bounds -/

-- A setting lies between two bounds unless it is no number.
def Within (low high x : Float32) : Prop :=
  isNumber x = true → low ≤ x ∧ x ≤ high

theorem within_clamp {low high : Float32} (h : low ≤ high) (x : Float32) :
    Within low high (clamp low high x) := by
  have ⟨hl, hh⟩ := isNumber_of_le h
  intro hx
  rw [Single.isNumber_clamp hl hh] at hx
  exact Single.clamp_bounds h hx

theorem Within.isFinite {low high x : Float32} (h : Within low high x)
    (hl : isFinite low = true) (hh : isFinite high = true) (hx : isNumber x = true) :
    isFinite x = true :=
  isFinite_of_le hl hh (h hx).1 (h hx).2

structure Bounded (o : Options Float32) : Prop where
  margin          : zero ≤ o.margin
  fontSize        : Within leastFontSize largestFontSize o.fontSize
  headingFontSize : Within leastFontSize largestFontSize o.headingFontSize
  lineSpacing     : Within one (Coordinate.ofInt 3) o.lineSpacing
  imageProportion : Within (tenths 1) one o.imageProportion

theorem bounded_ofDate (date : Calendar.Date) : Bounded (.ofDate date) := by
  have hmargin : (zero : Float32) ≤ Coordinate.ofInt 50 := by decide +kernel
  have hfont : (leastFontSize : Float32) ≤ Coordinate.ofInt 10 ∧
      (Coordinate.ofInt 10 : Float32) ≤ largestFontSize := by decide +kernel
  have hheading : (leastFontSize : Float32) ≤ Coordinate.ofInt 14 ∧
      (Coordinate.ofInt 14 : Float32) ≤ largestFontSize := by decide +kernel
  have hspacing : (one : Float32) ≤ tenths 14 ∧
      (tenths 14 : Float32) ≤ Coordinate.ofInt 3 := by decide +kernel
  have hproportion : (tenths 1 : Float32) ≤ Coordinate.ofDecimal false ⟨75, -2⟩ ∧
      (Coordinate.ofDecimal false ⟨75, -2⟩ : Float32) ≤ one := by decide +kernel
  exact ⟨hmargin, fun _ => hfont, fun _ => hheading, fun _ => hspacing, fun _ => hproportion⟩

-- A margin below zero, or one that is no number, is set to zero.
theorem zero_le_larger (x : Float32) : zero ≤ larger x zero := by
  have hzero : (zero : Float32) ≤ zero := by decide +kernel
  have hnumber : isNumber (zero : Float32) = true := (isNumber_of_le hzero).1
  unfold larger
  split
  case isTrue h =>
    simp only [hnumber, Bool.not_true, Bool.false_or, decide_eq_true_eq] at h
    exact Single.le_of_lt h
  case isFalse => exact hzero

variable {o : Options Float32}

theorem Made.bounded (h : Made o) : Bounded o := by
  have hsize : (leastFontSize : Float32) ≤ largestFontSize := by decide +kernel
  induction h with
  | ofDate date => exact bounded_ofDate date
  | margin x _ ih => exact { ih with margin := zero_le_larger x }
  | fontSize x _ ih => exact { ih with fontSize := within_clamp hsize x }
  | headingFontSize x _ ih => exact { ih with headingFontSize := within_clamp hsize x }
  | lineSpacing x _ ih =>
    exact { ih with lineSpacing := within_clamp (by decide +kernel) x }
  | imageProportion x _ ih =>
    exact { ih with imageProportion := within_clamp (by decide +kernel) x }
  | pageSize _ _ ih | compression _ _ ih | reportDate _ _ ih => exact { ih with }

/-! ### What is accepted -/

-- The settings that are cut to their bounds.
def clamped (o : Options Float32) : List Float32 :=
  [o.fontSize, o.headingFontSize, o.lineSpacing, o.imageProportion]

-- A layout that text can be put on: its numbers are finite and within their bounds, and its margins
-- leave room for more than a character and a line.
structure Usable (o : Options Float32) : Prop where
  page            : o.page.isValid = true
  finite          : ∀ x ∈ o.margin :: o.clamped, isFinite x = true
  margin          : zero ≤ o.margin
  fontSize        : leastFontSize ≤ o.fontSize ∧ o.fontSize ≤ largestFontSize
  headingFontSize : leastFontSize ≤ o.headingFontSize ∧ o.headingFontSize ≤ largestFontSize
  lineSpacing     : one ≤ o.lineSpacing ∧ o.lineSpacing ≤ Coordinate.ofInt 3
  imageProportion : tenths 1 ≤ o.imageProportion ∧ o.imageProportion ≤ one
  width           : o.fontSize < o.textWidth
  height          : o.fontSize * o.lineSpacing < o.page.height - two * o.margin

theorem validate_ok_iff_not_le : o.validate = .ok () ↔ o.page.isValid = true ∧
    ¬o.textWidth ≤ o.fontSize ∧
    ¬o.page.height - two * o.margin ≤ o.fontSize * o.lineSpacing := by
  unfold validate
  split
  case isTrue h => simpa using fun hv => absurd hv (by simpa using h)
  case isFalse h =>
    have hv : o.page.isValid = true := by simpa using h
    split
    case isTrue hm =>
      simp only [Bool.or_eq_true, decide_eq_true_eq] at hm
      simp only [reduceCtorEq, false_iff, not_and_or, not_not]
      exact .inr hm
    case isFalse hm =>
      simpa [hv] using hm

theorem isFinite_of_isValid {d : Dimensions Float32} (h : d.isValid = true) :
    isFinite d.width = true ∧ isFinite d.height = true := by
  simp only [Dimensions.isValid, Bool.and_eq_true] at h
  exact ⟨h.1.1.1, h.1.1.2⟩

theorem isNormal_two : Single.IsNormal two (2 ^ 23) (-22) :=
  ⟨by decide, by decide, rfl⟩

namespace Bounded

variable (h : Bounded o)
include h

-- What the margins leave of a side is a number, however large they are.
theorem isNumber_sub {side : Float32} (hs : isFinite side = true) :
    isNumber (side - two * o.margin) = true :=
  Single.isNumber_sub hs <| isNormal_two.isNumber_mul (isNumber_of_le h.margin).2

theorem isFinite_fontSize (hf : isNumber o.fontSize = true) : isFinite o.fontSize = true :=
  h.fontSize.isFinite (by decide +kernel) (by decide +kernel) hf

theorem isFinite_lineSpacing (hl : isNumber o.lineSpacing = true) :
    isFinite o.lineSpacing = true :=
  h.lineSpacing.isFinite (by decide +kernel) (by decide +kernel) hl

-- Infinite margins leave no room for anything.
theorem isFinite_margin {side x : Float32} (hs : isFinite side = true)
    (hx : x < side - two * o.margin) : isFinite o.margin = true := by
  change o.margin.toModel.unpack.isFinite = true
  have hm := h.margin
  have hnumber := Single.isNumber_iff.1 (isNumber_of_le hm).2
  cases hu : o.margin.toModel.unpack with
  | notANumber => exact absurd hu hnumber
  | zero | finite => rfl
  | infinity s =>
    cases s with
    | positive => exact absurd hx <| Single.not_lt_sub_infinity hs (isNormal_two.mul_infinity hu) x
    | negative =>
      rw [Single.le_iff, hu] at hm
      cases hm

-- What is no number is compared with nothing, and so it is never too large.
theorem validate_ok_iff : o.validate = .ok () ↔ o.page.isValid = true ∧
    (isNumber o.fontSize = true → o.fontSize < o.textWidth ∧
      (isNumber o.lineSpacing = true →
        o.fontSize * o.lineSpacing < o.page.height - two * o.margin)) := by
  rw [validate_ok_iff_not_le]
  refine and_congr_right fun hv => ?_
  have ⟨hw, hh⟩ := isFinite_of_isValid hv
  have hno {x y : Float32} (hy : ¬isNumber y = true) : ¬x ≤ y := fun hle =>
    hy (isNumber_of_le hle).2
  by_cases hf : isNumber o.fontSize = true
  case neg =>
    have hproduct : ¬isNumber (o.fontSize * o.lineSpacing) = true := by
      rw [Single.nan_mul _ (by simpa [Single.isNumber_iff] using hf)]
      decide
    simp only [hf, hno hf, hno hproduct, not_false_eq_true, and_self, Bool.false_eq_true,
      false_implies]
  case pos =>
    have hwidth : ¬o.textWidth ≤ o.fontSize ↔ o.fontSize < o.textWidth :=
      not_le_iff (h.isNumber_sub hw) hf
    by_cases hl : isNumber o.lineSpacing = true
    case neg =>
      have hproduct : ¬isNumber (o.fontSize * o.lineSpacing) = true := by
        rw [Single.mul_nan _ (by simpa [Single.isNumber_iff] using hl)]
        decide
      simp only [hf, hl, hwidth, hno hproduct, not_false_eq_true, and_true, true_implies,
        Bool.false_eq_true, false_implies]
    case pos =>
      have hproduct : isNumber (o.fontSize * o.lineSpacing) = true :=
        Single.isNumber_mul (h.isFinite_fontSize hf) (h.isFinite_lineSpacing hl)
      simp only [hf, hl, hwidth, not_le_iff (h.isNumber_sub hh) hproduct, true_implies]

theorem usable_iff : o.Usable ↔ o.validate = .ok () ∧ ∀ x ∈ o.clamped, isNumber x = true := by
  rw [h.validate_ok_iff]
  constructor
  · intro hu
    exact ⟨⟨hu.page, fun _ => ⟨hu.width, fun _ => hu.height⟩⟩,
      fun x hx => isNumber_of_isFinite (hu.finite x (.tail _ hx))⟩
  · rintro ⟨⟨hv, hroom⟩, hn⟩
    simp only [clamped, List.forall_mem_cons] at hn
    obtain ⟨hf, hh, hl, hi, -⟩ := hn
    obtain ⟨hwidth, hheight⟩ := hroom hf
    have hmargin := h.isFinite_margin (isFinite_of_isValid hv).1 hwidth
    refine ⟨hv, ?finite, h.margin, h.fontSize hf, h.headingFontSize hh, h.lineSpacing hl,
      h.imageProportion hi, hwidth, hheight hl⟩
    simp only [clamped, List.forall_mem_cons]
    refine ⟨hmargin, h.isFinite_fontSize hf, ?_, h.isFinite_lineSpacing hl, ?_, nofun⟩
    · exact h.headingFontSize.isFinite (by decide +kernel) (by decide +kernel) hh
    · exact h.imageProportion.isFinite (by decide +kernel) (by decide +kernel) hi

end Bounded

-- A layout that is accepted is one that text can be put on, unless one of the settings that are cut
-- to their bounds is no number: such a setting stays as it is, and no comparison finds it.
theorem Made.validate_usable (h : Made o) :
    (o.validate = .ok () ↔ o.page.isValid = true ∧
      (isNumber o.fontSize = true → o.fontSize < o.textWidth ∧
        (isNumber o.lineSpacing = true →
          o.fontSize * o.lineSpacing < o.page.height - two * o.margin))) ∧
    o.Bounded ∧ (o.Usable ↔ o.validate = .ok () ∧ ∀ x ∈ o.clamped, isNumber x = true) :=
  ⟨h.bounded.validate_ok_iff, h.bounded, h.bounded.usable_iff⟩

-- Margins without end beside a size that is no number.
def boundless : Options Float32 :=
  ((Options.ofDate ⟨2025, 1, 31, by decide⟩).withFontSize .nan).withMargin
    (Single.ofBits false BinaryFormat.single.infinityBits)

theorem Made.validate_usable_boundless :
    Made boundless ∧ boundless.validate = .ok () ∧ isFinite boundless.margin = false ∧
      ¬boundless.Usable := by
  have hmade : Made boundless := .margin _ (.fontSize _ (.ofDate _))
  have hsize : isNumber boundless.fontSize = false := by decide +kernel
  obtain ⟨hvalidate, -, husable⟩ := hmade.validate_usable
  refine ⟨hmade, hvalidate.2 ⟨by decide +kernel, by simp [hsize]⟩, by decide +kernel, fun hu => ?_⟩
  have hnumber := (husable.1 hu).2 _ (.head _)
  rw [hsize] at hnumber
  cases hnumber

end Options
end AccessReport
