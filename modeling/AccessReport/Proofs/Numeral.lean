import AccessReport.Bytes
import AccessReport.Number.Decimal
import Mathlib.Algebra.Group.Nat.Defs

namespace AccessReport

namespace Decimal

theorem toNat_digitOf (n : Nat) : (digitOf n).toNat = 48 + n % 10 := by
  have h : ∀ k < 10, (Char.ofNat ('0'.toNat + k)).toNat = 48 + k := by decide
  exact h (n % 10) (Nat.mod_lt n (by decide))

-- Digits give back the number under any way to read them one by one.
theorem foldl_digitsOf {g : Nat → Char → Nat} (hg : ∀ m k, g m (digitOf k) = m * 10 + k % 10)
    (n : Nat) : (digitsOf n).foldl g 0 = n := by
  have go (n : Nat) (tail : List Char) : (digitsOf.go n tail).foldl g 0 = tail.foldl g n := by
    induction n, tail using digitsOf.go.induct with
    | case1 n tail h =>
      rw [digitsOf.go, if_pos h, List.foldl_cons, hg, Nat.zero_mul, Nat.zero_add,
        Nat.mod_eq_of_lt h]
    | case2 n tail h ih =>
      rw [digitsOf.go, if_neg h, ih, List.foldl_cons, hg, Nat.div_add_mod']
  exact go n []

theorem length_digitsOf_le {n k : Nat} (hk : 0 < k) (h : n < 10 ^ k) :
    (digitsOf n).length ≤ k := by
  have go (n : Nat) (tail : List Char) :
      ∀ k, 0 < k → n < 10 ^ k → (digitsOf.go n tail).length ≤ k + tail.length := by
    induction n, tail using digitsOf.go.induct with
    | case1 n tail h =>
      intro k hk _
      rw [digitsOf.go, if_pos h, List.length_cons]
      omega
    | case2 n tail h ih =>
      intro k hk hn
      rw [digitsOf.go, if_neg h]
      have hk' : k ≠ 1 := by
        rintro rfl
        omega
      have hlt : n / 10 < 10 ^ (k - 1) := by
        have hp : 10 ^ k = 10 * 10 ^ (k - 1) := by
          rw [← Nat.pow_succ', Nat.succ_eq_add_one, Nat.sub_add_cancel hk]
        omega
      have := ih (k - 1) (by omega) hlt
      rw [List.length_cons] at this
      omega
  exact go n [] k hk h

theorem digitsOf_ne_nil (n : Nat) : digitsOf n ≠ [] := by
  have go (n : Nat) (tail : List Char) : digitsOf.go n tail ≠ [] := by
    induction n, tail using digitsOf.go.induct with
    | case1 n tail h =>
      rw [digitsOf.go, if_pos h]
      exact List.cons_ne_nil _ _
    | case2 n tail h ih => rwa [digitsOf.go, if_neg h]
  exact go n []

end Decimal

theorem toList_natText (n : Nat) : (natText n).toList = Decimal.digitsOf n := by
  simp [natText]

theorem isEmpty_natText (n : Nat) : (natText n).isEmpty = false := by
  have h := Decimal.digitsOf_ne_nil n
  rw [← toList_natText] at h
  simpa using h

namespace Bytes

theorem ofText_append (s t : String) : ofText (s ++ t) = ofText s ++ ofText t := by
  simp [ofText]

-- Different numbers have different texts, also byte by byte.
theorem ofText_natText_injective {m n : Nat} (h : ofText (natText m) = ofText (natText n)) :
    m = n := by
  have read (n : Nat) :
      (ofText (natText n)).foldl (fun m (b : UInt8) => m * 10 + (b.toNat - 48)) 0 = n := by
    rw [ofText, toList_natText, List.foldl_map]
    refine Decimal.foldl_digitsOf (fun m k => ?_) n
    have hk : k % 10 < 10 := Nat.mod_lt k (by decide)
    rw [Decimal.toNat_digitOf, UInt8.toNat_ofNat']
    omega
  rw [← read m, h, read n]

end Bytes
end AccessReport
