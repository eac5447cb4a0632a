import AccessReport.Number.Coordinate
import Mathlib.Data.Rat.Floor

namespace AccessReport

-- Fractions as numbers that a layout computes with: no operation rounds.
instance : Coordinate ℚ where
  ofInt n := n
  ofDecimal negative d :=
    let x := Rat.ofScientific d.digits (d.exponent < 0) d.exponent.natAbs
    if negative then -x else x
  isNumber _ := true
  isFinite _ := true
  floor x := ⌊x⌋₊
  text := toString
  inspect := toString
  decideLT := inferInstance
  decideLE := inferInstance

namespace Coordinate

theorem zero_exact : (zero : ℚ) = 0 :=
  rfl

theorem two_exact : (two : ℚ) = 2 :=
  rfl

theorem larger_exact (x y : ℚ) : larger x y = max x y := by
  rcases lt_or_ge y x with h | h
  · rw [max_eq_left h.le]
    exact if_pos <| decide_eq_true h
  · rw [max_eq_right h]
    exact if_neg <| by simpa [isNumber] using h

theorem smaller_exact (x y : ℚ) : smaller x y = min x y := by
  rcases lt_or_ge x y with h | h
  · rw [min_eq_left h.le]
    exact if_pos <| decide_eq_true h
  · rw [min_eq_right h]
    exact if_neg <| by simpa [isNumber] using h

end Coordinate
end AccessReport
