import AccessReport.Document.Layout
import AccessReport.Proofs.Rounding

namespace AccessReport

open Coordinate

namespace Single

theorem isNormal_leastFontSize : IsNormal Options.leastFontSize (2 ^ 23) (-21) :=
  ⟨by decide, by decide, rfl⟩

theorem isNormal_largestFontSize : IsNormal Options.largestFontSize (9 * 2 ^ 20) (-17) :=
  ⟨by decide, by decide, rfl⟩

theorem isNormal_glyphShare : IsNormal Measure.glyphShare (2 ^ 23) (-24) := by
  have hbits : (Measure.glyphShare : Float32) = .ofBits 0x3f000000 := by decide +kernel
  exact ⟨by decide, by decide, by rw [hbits]; rfl⟩

-- A size within the bounds.
structure IsSize (s : Float32) (m : Nat) (e : Int) : Prop extends IsNormal s m e where
  least   : -21 ≤ e
  largest : e ≤ -17

-- A clamped size is within the bounds, unless it is no number.
theorem clamp_fontSize (x : Float32) :
    let s := clamp Options.leastFontSize Options.largestFontSize x
    s.toModel.unpack = .notANumber ∨ ∃ m e, IsSize s m e := by
  intro s
  have hleast := isNormal_leastFontSize
  have hlargest := isNormal_largestFontSize
  simp only [s, clamp]
  split
  case isTrue => exact .inr ⟨_, _, hleast, by decide, by decide⟩
  case isFalse hl =>
    split
    case isTrue => exact .inr ⟨_, _, hlargest, by decide, by decide⟩
    case isFalse hh =>
      rw [lt_iff, hleast.parts] at hl
      rw [lt_iff, hlargest.parts] at hh
      cases hx : x.toModel.unpack with
      | notANumber => exact .inl rfl
      | infinity sign => cases sign <;> simp [hx, Float.Model.UnpackedFloat.compare] at hl hh
      | zero sign => simp [hx, Float.Model.UnpackedFloat.compare] at hl
      | finite sign m e hm =>
        cases sign with
        | negative => simp [hx, Float.Model.UnpackedFloat.compare] at hl
        | positive =>
          rw [hx, compare_positive] at hl hh
          obtain ⟨_, _, _⟩ := unpack_finite hx
          exact .inr ⟨m, e, ⟨by omega, by omega, hx⟩, by omega, by omega⟩

theorem IsNormal.half {x : Float32} {m : Nat} {e : Int} (h : IsNormal x m e) (he : -100 ≤ e)
    (he' : e ≤ 100) : IsNormal (x * Measure.glyphShare) m (e - 1) := by
  have hp := h.mul isNormal_glyphShare (by omega) (by omega)
  have ⟨hs, ht⟩ := significand_two_pow h.low h.high
  have hexponent : e + -24 + (23 : Nat) = e - 1 := by omega
  rwa [hs, ht, hexponent] at hp

-- The least width of the right column.
def columnWidth (s : Float32) : Float32 :=
  Measure.width ['0'] s * ofInt Options.rightColumnChars

namespace IsSize

variable {s : Float32} {m : Nat} {e : Int} (hs : IsSize s m e)
include hs

theorem width {n : Int} {k : Nat} {c : Int} (hn : IsNormal (ofInt n) k c) (hc : -23 ≤ c)
    (hc' : c ≤ -21) : IsNormal (ofInt n * s * Measure.glyphShare) (significand (k * m))
      (c + e + shift (k * m) - 1) := by
  have hleast := hs.least
  have hlargest := hs.largest
  have hlow : 2 ^ 23 * 2 ^ 23 ≤ k * m := Nat.mul_le_mul hn.low hs.low
  have hhigh : k * m < 2 ^ 24 * 2 ^ 24 := Nat.mul_lt_mul'' hn.high hs.high
  have hp := significand_near hlow hhigh
  exact (hn.mul hs.toIsNormal (by omega) (by omega)).half (by omega) (by omega)

theorem columnWidth : IsNormal (columnWidth s) (significand (m * (3 * 2 ^ 22)))
    (e - 22 + shift (m * (3 * 2 ^ 22))) := by
  have hleast := hs.least
  have hlargest := hs.largest
  have hone : IsNormal (ofInt 1) (2 ^ 23) (-23) := ⟨by decide, by decide, rfl⟩
  have hsix : IsNormal (ofInt Options.rightColumnChars) (3 * 2 ^ 22) (-21) :=
    ⟨by decide, by decide, rfl⟩
  have hw := hs.width hone (by decide) (by decide)
  have ⟨hsig, hshift⟩ := significand_two_pow hs.low hs.high
  rw [Nat.mul_comm, hsig, hshift] at hw
  have hp := hw.mul hsix (by omega) (by omega)
  have hexponent : -23 + e + (23 : Nat) - 1 + -21 = e - 22 := by omega
  rwa [hexponent] at hp

-- Up to six characters are no wider than that: each number of them with its own significand.
theorem not_columnWidth_lt {n : Nat} (hn : n ≤ 6) :
    ¬Single.columnWidth s < ofInt n * s * Measure.glyphShare := by
  have low := hs.low
  have high := hs.high
  have hnear := significand_near (m := m * (3 * 2 ^ 22)) (by omega) (by omega)
  have lt_iff {k : Nat} {c : Int} (hn : IsNormal (ofInt n) k c) (hc : -23 ≤ c) (hc' : c ≤ -21) :=
    hs.columnWidth.lt_iff (hs.width hn hc hc')
  match n, hn with
  | 0, _ =>
    have hwidth := isNormal_glyphShare.zero_mul <| hs.zero_mul (z := ofInt 0) rfl
    change ¬Single.columnWidth s < ofInt 0 * s * Measure.glyphShare
    rw [Single.lt_iff, hwidth, hs.columnWidth.parts]
    nofun
  | 1, _ =>
    rw [lt_iff (k := 2 ^ 23) (c := -23) ⟨by decide, by decide, rfl⟩ (by decide) (by decide)]
    have := significand_near (m := 2 ^ 23 * m) (by omega) (by omega)
    omega
  | 2, _ =>
    rw [lt_iff (k := 2 ^ 23) (c := -22) ⟨by decide, by decide, rfl⟩ (by decide) (by decide)]
    have := significand_near (m := 2 ^ 23 * m) (by omega) (by omega)
    omega
  | 3, _ =>
    rw [lt_iff (k := 3 * 2 ^ 22) (c := -22) ⟨by decide, by decide, rfl⟩ (by decide) (by decide),
      Nat.mul_comm]
    omega
  | 4, _ =>
    rw [lt_iff (k := 2 ^ 23) (c := -21) ⟨by decide, by decide, rfl⟩ (by decide) (by decide)]
    have := significand_near (m := 2 ^ 23 * m) (by omega) (by omega)
    omega
  | 5, _ =>
    rw [lt_iff (k := 5 * 2 ^ 21) (c := -21) ⟨by decide, by decide, rfl⟩ (by decide) (by decide)]
    have := significand_near (m := 5 * 2 ^ 21 * m) (by omega) (by omega)
    omega
  | 6, _ =>
    rw [lt_iff (k := 3 * 2 ^ 22) (c := -21) ⟨by decide, by decide, rfl⟩ (by decide) (by decide),
      Nat.mul_comm]
    omega

end IsSize

-- The width that is kept for the right column does not depend on what is in it.
theorem larger_columnWidth (x : Float32) {right : List Char} (h : right.length ≤ 6) :
    let s := clamp Options.leastFontSize Options.largestFontSize x
    larger (Measure.width right s) (columnWidth s) = columnWidth s := by
  intro s
  rcases clamp_fontSize x with hs | ⟨m, e, hs⟩
  case inl =>
    have hwidth (text : List Char) : Measure.width text s = .nan := by
      rw [Measure.width, mul_nan _ hs, nan_mul _ rfl]
    rw [columnWidth, hwidth, hwidth, nan_mul _ rfl, larger, ite_self]
  case inr =>
    have hlt : ¬columnWidth s < Measure.width right s := hs.not_columnWidth_lt h
    have hnumber : isNumber (columnWidth s) = true := by
      change (!(columnWidth s).toModel.unpack.isNaN) = true
      rw [hs.columnWidth.parts]
      rfl
    simp [larger, hnumber, hlt]

end Single

namespace Options

theorem rowLines_withFontSize (o : Options Float32) (x : Float32) (left : List Char)
    {right : List Char} (h : right.length ≤ 6) :
    (o.withFontSize x).rowLines .body left right = (o.withFontSize x).rowLines .body left [] := by
  have reserved {right : List Char} (h : right.length ≤ 6) :
      larger (Measure.width right (o.withFontSize x).fontSize)
        (Measure.width ['0'] (o.withFontSize x).fontSize * ofInt rightColumnChars) =
        Single.columnWidth (o.withFontSize x).fontSize :=
    Single.larger_columnWidth x h
  simp only [rowLines, size, reserved h, @reserved [] (Nat.zero_le _)]

end Options
end AccessReport
