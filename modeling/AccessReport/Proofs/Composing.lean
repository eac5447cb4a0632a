import AccessReport.Proofs.Wrapping
import AccessReport.Text.WinAnsi

namespace AccessReport
namespace Composition

variable {a c d s : Char} {cs : List Char}

-- The composed form without the short cut for texts in which nothing can change.
def composed (cs : List Char) : List Char :=
  compose none [] 0 (orderMarks (cs.flatMap (decomposeChar 5)))

-- A character that nothing in front of it is moved behind, or put together with.
structure Stands (d : Char) : Prop where
  class_eq : combiningClass d = 0
  alone    : ∀ a, composePair a d = none

-- A character whose parts begin with one of these: text can be cut in front of it.
def Opens (c : Char) : Prop :=
  ∃ d ds, decomposeChar 5 c = d :: ds ∧ Stands d

/-! ### Cutting in front of a character -/

theorem orderMarks_go_append (h : combiningClass d = 0) (marks : List (Char × Nat))
    (xs ys : List Char) :
    orderMarks.go marks (xs ++ d :: ys) = orderMarks.go marks xs ++ orderMarks (d :: ys) := by
  induction xs generalizing marks with
  | nil => simp [orderMarks, orderMarks.go, h]
  | cons x xs ih =>
    rw [List.cons_append, orderMarks.go, orderMarks.go]
    split
    · simp [ih]
    · exact ih _

theorem orderMarks_cons (h : combiningClass d = 0) (ys : List Char) :
    orderMarks (d :: ys) = (d, 0) :: orderMarks ys := by
  simp [orderMarks, orderMarks.go, h]

theorem orderMarks_append (h : combiningClass d = 0) (xs ys : List Char) :
    orderMarks (xs ++ d :: ys) = orderMarks xs ++ orderMarks (d :: ys) :=
  orderMarks_go_append h [] xs ys

theorem compose_append (h : ∀ a, composePair a d = none) (starter : Option Char)
    (waiting : List Char) (blocked : Nat) (xs ys : List (Char × Nat)) :
    compose starter waiting blocked (xs ++ (d, 0) :: ys) =
      compose starter waiting blocked xs ++ compose none [] 0 ((d, 0) :: ys) := by
  induction xs generalizing starter waiting blocked with
  | nil => cases starter <;> simp [compose, h]
  | cons x xs ih =>
    generalize compose none [] 0 ((d, 0) :: ys) = rest at ih ⊢
    cases starter with
    | none =>
      simp only [List.cons_append, compose, ih]
      split <;> simp
    | some s =>
      simp only [List.cons_append, compose, ih]
      split
      · rfl
      · split <;> simp

theorem composed_append (h : Opens c) (xs ys : List Char) :
    composed (xs ++ c :: ys) = composed xs ++ composed (c :: ys) := by
  obtain ⟨d, ds, hd, hs⟩ := h
  simp only [composed, List.flatMap_append, List.flatMap_cons, hd, List.cons_append]
  rw [orderMarks_append hs.class_eq, orderMarks_cons hs.class_eq, compose_append hs.alone]

theorem composed_of_opens (h : ∀ c ∈ cs, Opens c) : composed cs = cs.flatMap (composed [·]) := by
  induction cs with
  | nil => rfl
  | cons c cs ih =>
    cases cs with
    | nil => simp
    | cons b cs =>
      have hb := composed_append (h b (.tail _ (.head _))) [c] cs
      rw [List.singleton_append] at hb
      rw [hb, ih fun c hc => h c (.tail _ hc)]
      rfl

-- Where a starter is put together with nothing, what is behind it does not depend on it.
theorem compose_some (h : ∀ b, composePair s b = none) (waiting : List Char) (blocked : Nat)
    (xs : List (Char × Nat)) :
    compose (some s) waiting blocked xs = s :: compose none waiting blocked xs := by
  induction xs generalizing waiting blocked with
  | nil => rfl
  | cons x xs ih =>
    obtain ⟨c, k⟩ := x
    simp only [compose, h, ite_self]
    split
    · rfl
    · exact ih ..

/-! ### The tables -/

theorem wholeOf_eq_none {rs : List (Nat × Nat × Nat)} {m n : Nat}
    (h : ∀ r ∈ rs, r.2.1 = m → r.2.2 ≠ n) : wholeOf rs m n = none := by
  induction rs with
  | nil => rfl
  | cons r rs ih =>
    have hr := h r (.head _)
    rw [wholeOf, if_neg (by simpa using hr)]
    exact ih fun r hr => h r (.tail _ hr)

theorem mem_of_partsOf {rs : List (Nat × Nat × Nat)} {n : Nat} {parts : Nat × Nat}
    (h : partsOf rs n = some parts) : (n, parts) ∈ rs := by
  induction rs with
  | nil => cases h
  | cons r rs ih =>
    rw [partsOf] at h
    split at h
    · cases h
    · split at h
      case isTrue hn =>
        cases h
        exact hn ▸ .head _
      case isFalse => exact .tail _ <| ih h

theorem mem_of_replacementOf {rs : List (Nat × Nat)} {n d : Nat}
    (h : replacementOf rs n = some d) : (n, d) ∈ rs := by
  induction rs with
  | nil => cases h
  | cons r rs ih =>
    rw [replacementOf] at h
    split at h
    · cases h
    · split at h
      case isTrue hn =>
        cases h
        exact hn ▸ .head _
      case isFalse => exact .tail _ <| ih h

-- Only marks and some letters far behind are put together with what is in front of them, and
-- nothing with a space; an early character begins with an early one.
theorem pairs_table :
    pairs.all (fun (whole, a, b) => (whole < 0x300 → a < 0x300) ∧ a ≠ 0x20 ∧ 0x300 ≤ b) = true := by
  decide +kernel

-- Early characters are put together again when they are taken apart.
theorem composed_table :
    pairs.all (fun (whole, _) => whole < 0x300 → composed [Char.ofNat whole] = [Char.ofNat whole]) =
      true := by
  decide +kernel

theorem brokenPairs_table : brokenPairs.all (fun (whole, _) => 0x300 ≤ whole) = true := by
  decide +kernel

theorem replacements_table : replacements.all (fun (n, _) => 0x300 ≤ n) = true := by
  decide +kernel

-- An early character is taken apart by one row of the table, or not at all.
theorem decomposeChar_of_lt (h : c.toNat < 0x300) (fuel : Nat) :
    decomposeChar (fuel + 1) c = [c] ∨
      ∃ a b, (c.toNat, a, b) ∈ pairs ∧ decomposeChar (fuel + 1) c =
        decomposeChar fuel (Char.ofNat a) ++ decomposeChar fuel (Char.ofNat b) := by
  have hsyllable : ¬ syllables ≤ c.toNat := by
    unfold syllables
    omega
  have hbroken : partsOf brokenPairs c.toNat = none :=
    Option.eq_none_iff_forall_ne_some.2 fun _ hp =>
      absurd (of_decide_eq_true <| List.all_eq_true.1 brokenPairs_table _ <| mem_of_partsOf hp)
        (Nat.not_le_of_lt h)
  have hreplaced : replacementOf replacements c.toNat = none :=
    Option.eq_none_iff_forall_ne_some.2 fun _ hp =>
      absurd (of_decide_eq_true <| List.all_eq_true.1 replacements_table _ <|
        mem_of_replacementOf hp) (Nat.not_le_of_lt h)
  by_cases hplain : c.toNat < 0xC0
  · exact .inl <| by simp [decomposeChar, hplain]
  · cases hparts : partsOf pairs c.toNat with
    | none => exact .inl <| by simp [decomposeChar, hsyllable, hbroken, hreplaced, hparts]
    | some parts =>
      exact .inr ⟨parts.1, parts.2, mem_of_partsOf hparts, by
        simp [decomposeChar, hplain, hsyllable, hparts]⟩

theorem stands_of_lt (h : d.toNat < 0x300) : Stands d where
  class_eq := if_pos h
  alone    := fun a => by
    have hvowel : ¬vowels ≤ d.toNat := by
      unfold vowels
      omega
    have htrail : ¬trails < d.toNat := by
      unfold trails
      omega
    have hpairs : wholeOf pairs a.toNat d.toNat = none := wholeOf_eq_none fun r hr _ =>
      have hr := of_decide_eq_true <| List.all_eq_true.1 pairs_table r hr
      Nat.ne_of_gt <| Nat.lt_of_lt_of_le h hr.2.2
    simp [composePair, hvowel, htrail, hpairs]

theorem exists_decomposeChar_of_lt (h : c.toNat < 0x300) (fuel : Nat) :
    ∃ d ds, decomposeChar fuel c = d :: ds ∧ d.toNat < 0x300 := by
  induction fuel generalizing c with
  | zero => exact ⟨c, [], rfl, h⟩
  | succ fuel ih =>
    rcases decomposeChar_of_lt h fuel with hc | ⟨a, b, hmem, hc⟩
    · exact ⟨c, [], hc, h⟩
    · have ha : a < 0x300 := (of_decide_eq_true <| List.all_eq_true.1 pairs_table _ hmem).1 h
      have hvalid : a.isValidChar := .inl <| by omega
      have hto : (Char.ofNat a).toNat < 0x300 := by
        rw [Char.ofNat, dif_pos hvalid]
        exact ha
      obtain ⟨d, ds, hd, hlt⟩ := ih hto
      exact ⟨d, _, by rw [hc, hd, List.cons_append], hlt⟩

theorem opens_of_lt (h : c.toNat < 0x300) : Opens c := by
  obtain ⟨d, ds, hd, hlt⟩ := exists_decomposeChar_of_lt h 5
  exact ⟨d, ds, hd, stands_of_lt hlt⟩

theorem composed_of_lt (h : c.toNat < 0x300) : composed [c] = [c] := by
  rcases decomposeChar_of_lt h 4 with hc | ⟨a, b, hmem, -⟩
  · have hclass : combiningClass c = 0 := if_pos h
    simp [composed, hc, orderMarks, orderMarks.go, hclass, compose]
  · have hc := of_decide_eq_true (List.all_eq_true.1 composed_table _ hmem) h
    rwa [Char.ofNat_toNat] at hc

theorem composePair_space (b : Char) : composePair ' ' b = none := by
  have hpairs : wholeOf pairs 32 b.toNat = none := wholeOf_eq_none fun r hr he => by
    have hr := of_decide_eq_true <| List.all_eq_true.1 pairs_table r hr
    exact absurd he hr.2.1
  simp [composePair, hpairs, leads, syllables]

theorem composed_space_cons (cs : List Char) : composed (' ' :: cs) = ' ' :: composed cs := by
  have hd : decomposeChar 5 ' ' = [' '] := rfl
  simp only [composed, List.flatMap_cons, hd, List.singleton_append]
  rw [orderMarks_cons rfl]
  exact compose_some composePair_space ..

theorem normalForm_eq_composed (cs : List Char) : normalForm cs = composed cs := by
  unfold normalForm
  split
  case isTrue h =>
    have hearly := fun c hc => of_decide_eq_true <| List.all_eq_true.1 h c hc
    rw [composed_of_opens fun c hc => opens_of_lt <| hearly c hc, List.flatMap_def,
      List.map_congr_left fun c hc => composed_of_lt <| hearly c hc, ← List.flatMap_def,
      List.flatMap_singleton']
  case isFalse => rfl

end Composition
end AccessReport
