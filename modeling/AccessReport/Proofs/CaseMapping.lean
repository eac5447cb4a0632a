import AccessReport.Content.Label

namespace AccessReport.Case

namespace Run

variable {r : Run} {runs : List Run} {n : Nat}

-- How far the members of a run are apart; a single one has no other.
def stride (r : Run) : Nat :=
  if r.first = r.last then 0 else r.step

structure Holds (r : Run) (n : Nat) : Prop where
  le_last : n ≤ r.last
  steps   : ∃ k, n = r.first + k * r.stride

theorem Holds.first_le (h : r.Holds n) : r.first ≤ n := by
  obtain ⟨_, k, rfl⟩ := h
  exact Nat.le_add_right ..

-- Whether all members of a run are mapped to characters.
def isValid (r : Run) : Bool :=
  0 ≤ r.first + r.shift &&
    (r.last + r.shift < 0xD800 || 0xDFFF < r.first + r.shift && r.last + r.shift < 0x110000)

theorem holds_of_find (h : find runs n = some r) : r ∈ runs ∧ r.Holds n := by
  induction runs with
  | nil => cases h
  | cons q qs ih =>
    have hrest (h : find qs n = some r) : r ∈ q :: qs ∧ r.Holds n :=
      ⟨.tail _ (ih h).1, (ih h).2⟩
    rw [find] at h
    split at h
    case isTrue => cases h
    case isFalse hfirst =>
      split at h
      case isFalse => exact hrest h
      case isTrue hlast =>
        split at h
        case isFalse => exact hrest h
        case isTrue hstep =>
          obtain rfl := Option.some.inj h
          refine ⟨.head _, hlast, (n - q.first) / q.step, ?_⟩
          have hdiv := Nat.div_add_mod' (n - q.first) q.step
          rw [stride]
          split
          case isTrue => omega
          case isFalse => omega

-- What is found for all of the numbers `lo`, `lo + step` and so on to `hi`, where the ends tell.
def findAll (lo hi step : Nat) : List Run → Option (Option Run)
  | [] => some none
  | q :: qs =>
    bif Nat.blt hi q.first then some none
    else bif Nat.blt lo q.first then none
    else bif Nat.blt q.last lo then findAll lo hi step qs
    else bif Nat.beq (step % q.step) 0 then
      bif Nat.beq ((lo - q.first) % q.step) 0 then
        bif Nat.ble hi q.last then some (some q) else none
      else findAll lo hi step qs
    else none

theorem find_of_findAll {lo hi step k : Nat} {found : Option Run}
    (h : findAll lo hi step runs = some found) (hk : lo + k * step ≤ hi) :
    find runs (lo + k * step) = found := by
  have hlo := Nat.le_add_right lo (k * step)
  induction runs with
  | nil => exact Option.some.inj h
  | cons q qs ih =>
    simp only [findAll, Bool.cond_eq_ite, Nat.blt_eq, Nat.ble_eq, Nat.beq_eq] at h
    rw [find]
    split at h
    case isTrue hbelow =>
      rw [if_pos (Nat.lt_of_le_of_lt hk hbelow)]
      exact Option.some.inj h
    case isFalse =>
      split at h
      case isTrue => cases h
      case isFalse hfirst =>
        rw [if_neg (by omega)]
        split at h
        case isTrue hlast => rw [if_neg (by omega), ih h]
        case isFalse =>
          split at h
          case isFalse => cases h
          case isTrue hstep =>
            -- the members are all as far from those of `q` as the first one
            have hmod : (lo + k * step - q.first) % q.step = (lo - q.first) % q.step := by
              rw [Nat.sub_add_comm (by omega), Nat.add_mod, Nat.mul_mod, hstep]
              simp
            rw [hmod]
            split at h
            case isTrue hzero =>
              split at h
              case isTrue hlast =>
                rw [if_pos (Nat.le_trans hk hlast), if_pos hzero]
                exact Option.some.inj h
              case isFalse => cases h
            case isFalse hzero => rw [if_neg hzero, ih h, ite_self]

-- What is found for what the members of a run are mapped to.
def findImage (r : Run) (runs : List Run) : Option (Option Run) :=
  findAll (r.first + r.shift).toNat (r.last + r.shift).toNat r.stride runs

theorem toNat_apply (hr : r.isValid = true) (hn : r.Holds n) :
    ((r.apply n).toNat : Int) = n + r.shift := by
  have hfirst := hn.first_le
  have hlast := hn.le_last
  simp only [isValid, Bool.and_eq_true, Bool.or_eq_true, decide_eq_true_eq] at hr
  have hvalid : ((n : Int) + r.shift).toNat.isValidChar := by
    rw [Nat.isValidChar]
    omega
  have hto : (Char.ofNat ((n : Int) + r.shift).toNat).toNat = ((n : Int) + r.shift).toNat := by
    rw [Char.ofNat, dif_pos hvalid]
    rfl
  rw [apply, hto]
  omega

theorem find_of_findImage {found : Option Run} (h : r.findImage runs = some found)
    (hr : r.isValid = true) (hn : r.Holds n) : find runs (r.apply n).toNat = found := by
  have hto := toNat_apply hr hn
  obtain ⟨hlast, k, rfl⟩ := hn
  simp only [isValid, Bool.and_eq_true, Bool.or_eq_true, decide_eq_true_eq] at hr
  have heq : (r.apply (r.first + k * r.stride)).toNat =
      (r.first + r.shift).toNat + k * r.stride := by
    omega
  rw [heq]
  exact find_of_findAll h (by omega)

-- Whether no member of a run is mapped into one of some ranges.
def isOutside (r : Run) (ranges : List (Nat × Nat)) : Bool :=
  ranges.all fun (first, last) => r.last + r.shift < first || last < r.first + r.shift

theorem not_within_of_isOutside {ranges : List (Nat × Nat)} (h : r.isOutside ranges = true)
    (hr : r.isValid = true) (hn : r.Holds n) :
    ∀ p ∈ ranges, ¬(p.1 ≤ (r.apply n).toNat ∧ (r.apply n).toNat ≤ p.2) := by
  intro p hp
  have hto := toNat_apply hr hn
  have hfirst := hn.first_le
  have hlast := hn.le_last
  have hout := List.all_eq_true.1 h p hp
  simp only [Bool.or_eq_true, decide_eq_true_eq] at hout
  omega

end Run

-- The characters at which keys are cut.
def separatorRanges : List (Nat × Nat) := [
  (0x9, 0xD), (0x20, 0x20), (0x2D, 0x2E), (0x5F, 0x5F), (0x85, 0x85), (0xA0, 0xA0), (0x1680, 0x1680),
  (0x2000, 0x200A), (0x2028, 0x2029), (0x202F, 0x202F), (0x205F, 0x205F), (0x3000, 0x3000)]

-- Those, and the character with a lower case of two characters.
def excludedRanges : List (Nat × Nat) :=
  (0x130, 0x130) :: separatorRanges

theorem within_of_isSeparator {c : Char} (h : Label.isSeparator c = true) :
    ∃ p ∈ separatorRanges, p.1 ≤ c.toNat ∧ c.toNat ≤ p.2 := by
  have heq (d : Char) : c = d ↔ c.toNat = d.toNat := ⟨congrArg _, Char.toNat_inj.1⟩
  simp only [Label.isSeparator, Text.isBlank, heq, Bool.or_eq_true, Bool.and_eq_true,
    decide_eq_true_eq, Char.reduceToNat] at h
  simp only [separatorRanges, List.mem_cons, List.not_mem_nil, or_false, exists_eq_or_imp,
    exists_eq_left]
  omega

section Tables

-- Whether the lower case of a character is one that has it as its upper case.
def isReturned (u : Char) : Bool :=
  match lowerChar u with
  | [l] => upperChar l = [u]
  | _   => false

theorem separatorRanges_table : separatorRanges.all (fun (first, last) =>
    (List.range (last + 1 - first)).all fun k =>
      lowerChar (Char.ofNat (first + k)) = [Char.ofNat (first + k)]) = true := by
  decide +kernel

theorem lowerRuns_table : lowerRuns.all (fun r =>
    r.isValid && r.isOutside excludedRanges && (r.findImage lowerRuns).any (·.isNone)) = true := by
  decide +kernel

-- Nearly all runs lead back the way they came; what the members of the others are mapped to is
-- looked at one by one.
theorem upperRuns_table : upperRuns.all (fun r => r.isValid && r.isOutside excludedRanges &&
    ((r.findImage lowerRuns).any (·.any (·.shift = -r.shift)) ||
      (List.range (r.last + 1 - r.first)).all fun k => isReturned (r.apply (r.first + k)))) =
    true := by
  decide +kernel

theorem upperStrings_table : upperStrings.all (fun (_, ns) =>
    (ns.map Char.ofNat).head?.any isReturned &&
      ns.all fun n => !Label.isSeparator (Char.ofNat n)) = true := by
  decide +kernel

end Tables

section Runs

variable {r : Run} {n : Nat}

theorem lowerRuns_laws (h : Run.find lowerRuns n = some r) :
    r.isValid = true ∧ r.isOutside excludedRanges = true ∧
      Run.find lowerRuns (r.apply n).toNat = none := by
  obtain ⟨hr, hn⟩ := Run.holds_of_find h
  have htable := List.all_eq_true.1 lowerRuns_table r hr
  simp only [Bool.and_eq_true, Option.any_eq_true, Option.isNone_iff_eq_none] at htable
  obtain ⟨⟨hvalid, hout⟩, found, hfound, rfl⟩ := htable
  exact ⟨hvalid, hout, Run.find_of_findImage hfound hvalid hn⟩

theorem upperRuns_laws (h : Run.find upperRuns n = some r) :
    r.isValid = true ∧ r.isOutside excludedRanges = true ∧
      ((∃ q, Run.find lowerRuns (r.apply n).toNat = some q ∧ q.shift = -r.shift) ∨
        isReturned (r.apply n) = true) := by
  obtain ⟨hr, hn⟩ := Run.holds_of_find h
  have htable := List.all_eq_true.1 upperRuns_table r hr
  simp only [Bool.and_eq_true, Bool.or_eq_true, Option.any_eq_true, decide_eq_true_eq,
    List.all_eq_true, List.mem_range] at htable
  obtain ⟨⟨hvalid, hout⟩, hback | hback⟩ := htable
  · obtain ⟨found, hfound, q, rfl, hq⟩ := hback
    exact ⟨hvalid, hout, .inl ⟨q, Run.find_of_findImage hfound hvalid hn, hq⟩⟩
  · have hfirst := hn.first_le
    have hlast := hn.le_last
    have hk := hback (n - r.first) (by omega)
    rw [Nat.add_sub_cancel' hfirst] at hk
    exact ⟨hvalid, hout, .inr hk⟩

-- What a member of such a run is mapped to is none of the excluded characters.
theorem apply_spec {runs : List Run} (h : Run.find runs n = some r) (hvalid : r.isValid = true)
    (hout : r.isOutside excludedRanges = true) :
    Label.isSeparator (r.apply n) = false ∧ r.apply n ≠ 'İ' := by
  have hn := (Run.holds_of_find h).2
  have hnot := Run.not_within_of_isOutside hout hvalid hn
  constructor
  · rw [Bool.eq_false_iff]
    intro hs
    obtain ⟨p, hp, hin⟩ := within_of_isSeparator hs
    exact hnot p (.tail _ hp) hin
  · intro heq
    exact hnot (0x130, 0x130) (.head _) (by rw [heq]; decide)

end Runs

variable {c x u : Char}

theorem isReturned_iff : isReturned u = true ↔ ∃ l, lowerChar u = [l] ∧ upperChar l = [u] := by
  unfold isReturned
  constructor
  · intro h
    split at h
    case h_1 l hl => exact ⟨l, hl, of_decide_eq_true h⟩
    case h_2 => cases h
  · rintro ⟨l, hl, hu⟩
    rw [hl]
    exact decide_eq_true hu

theorem lowerChar_of_find {r : Run} (hc : c ≠ 'İ') (h : Run.find lowerRuns c.toNat = some r) :
    lowerChar c = [r.apply c.toNat] := by
  rw [lowerChar, if_neg hc, h]

theorem lowerChar_of_find_none (hc : c ≠ 'İ') (h : Run.find lowerRuns c.toNat = none) :
    lowerChar c = [c] := by
  rw [lowerChar, if_neg hc, h]

-- What the lower case of a character can be.
theorem lowerChar_cases (c : Char) :
    lowerChar c = ['i', '\u0307'] ∨ lowerChar c = [c] ∨
      ∃ l, lowerChar c = [l] ∧ lowerChar l = [l] ∧ Label.isSeparator l = false := by
  by_cases hc : c = 'İ'
  · exact .inl (by rw [lowerChar, if_pos hc])
  · cases hr : Run.find lowerRuns c.toNat with
    | none => exact .inr (.inl (lowerChar_of_find_none hc hr))
    | some r =>
      obtain ⟨hvalid, hout, hnone⟩ := lowerRuns_laws hr
      obtain ⟨hseparator, hne⟩ := apply_spec hr hvalid hout
      exact .inr (.inr ⟨_, lowerChar_of_find hc hr, lowerChar_of_find_none hne hnone, hseparator⟩)

theorem lowerChar_ne_nil (c : Char) : lowerChar c ≠ [] := by
  obtain h | h | ⟨l, h, _⟩ := lowerChar_cases c <;> simp [h]

-- A lower case has none itself.
theorem lowerChar_lowerChar (h : x ∈ lowerChar c) : lowerChar x = [x] := by
  obtain hc | hc | ⟨l, hc, hl, _⟩ := lowerChar_cases c
  · rw [hc, List.mem_cons, List.mem_singleton] at h
    cases h with
    | inl h => exact h ▸ (by decide)
    | inr h => exact h ▸ (by decide)
  · rw [hc, List.mem_singleton] at h
    rw [h, hc]
  · rw [hc, List.mem_singleton] at h
    rw [h, hl]

theorem isSeparator_of_mem_lowerChar (hc : Label.isSeparator c = false) (h : x ∈ lowerChar c) :
    Label.isSeparator x = false := by
  obtain hl | hl | ⟨l, hl, _, hs⟩ := lowerChar_cases c
  · rw [hl, List.mem_cons, List.mem_singleton] at h
    cases h with
    | inl h => exact h ▸ (by decide)
    | inr h => exact h ▸ (by decide)
  · rw [hl, List.mem_singleton] at h
    rw [h, hc]
  · rw [hl, List.mem_singleton] at h
    rw [h, hs]

theorem lowerChar_of_isSeparator (h : Label.isSeparator c = true) : lowerChar c = [c] := by
  obtain ⟨p, hp, hlow, hhigh⟩ := within_of_isSeparator h
  have htable := List.all_eq_true.1 separatorRanges_table p hp
  simp only [List.all_eq_true, List.mem_range, decide_eq_true_eq] at htable
  have hc := htable (c.toNat - p.1) (by omega)
  rwa [Nat.add_sub_cancel' hlow, Char.ofNat_toNat] at hc

-- Capitals of the alphabet have a lower case.
theorem isUpper_of_lowerChar_eq (h : lowerChar c = [c]) : Label.isUpper c = false := by
  have hall : ∀ k < 26, lowerChar (Char.ofNat ('A'.toNat + k)) ≠ [Char.ofNat ('A'.toNat + k)] := by
    decide
  rw [Bool.eq_false_iff]
  intro hu
  simp only [Label.isUpper, Bool.and_eq_true, decide_eq_true_eq] at hu
  have hlow : 'A'.toNat ≤ c.toNat := hu.1
  have hhigh : c.toNat ≤ 'A'.toNat + 25 := hu.2
  have hne := hall (c.toNat - 'A'.toNat) (by omega)
  rw [Nat.add_sub_cancel' hlow, Char.ofNat_toNat] at hne
  exact hne h

-- What the upper case of a character can be.
theorem upperChar_cases (c : Char) : upperChar c = [c] ∨ ∃ u t, upperChar c = u :: t ∧
    isReturned u = true ∧ ∀ x ∈ u :: t, Label.isSeparator x = false := by
  cases hs : upperStrings.lookup c.toNat with
  | some ns =>
    right
    have hu : upperChar c = ns.map Char.ofNat := by rw [upperChar, hs]
    obtain ⟨before, behind, heq, -⟩ := List.lookup_eq_some_iff.1 hs
    have htable := List.all_eq_true.1 upperStrings_table (c.toNat, ns) (by simp [heq])
    simp only [Bool.and_eq_true, List.all_eq_true, Bool.not_eq_true'] at htable
    obtain ⟨hhead, hseparator⟩ := htable
    cases ns with
    | nil => cases hhead
    | cons n ns =>
      refine ⟨_, _, hu, hhead, fun x hx => ?_⟩
      obtain ⟨m, hm, rfl⟩ := List.mem_map.1 ((List.map_cons ..).symm ▸ hx)
      exact hseparator m hm
  | none =>
    cases hr : Run.find upperRuns c.toNat with
    | none =>
      left
      rw [upperChar, hs, hr]
    | some r =>
      right
      have hu : upperChar c = [r.apply c.toNat] := by rw [upperChar, hs, hr]
      obtain ⟨hvalid, hout, hback⟩ := upperRuns_laws hr
      obtain ⟨hseparator, hne⟩ := apply_spec hr hvalid hout
      refine ⟨_, [], hu, ?_, fun x hx => List.mem_singleton.1 hx ▸ hseparator⟩
      obtain ⟨q, hq, hshift⟩ | hreturned := hback
      · have hto := Run.toNat_apply hvalid (Run.holds_of_find hr).2
        have hl : q.apply (r.apply c.toNat).toNat = c := by
          rw [Run.apply, hto, hshift, Int.add_neg_cancel_right, Int.toNat_natCast, Char.ofNat_toNat]
        have hlower := lowerChar_of_find hne hq
        rw [hl] at hlower
        exact isReturned_iff.2 ⟨c, hlower, hu⟩
      · exact hreturned

theorem upperChar_ne_nil (c : Char) : upperChar c ≠ [] := by
  obtain h | ⟨u, t, h, _⟩ := upperChar_cases c <;> simp [h]

theorem isSeparator_of_mem_upperChar (hc : Label.isSeparator c = false) (h : x ∈ upperChar c) :
    Label.isSeparator x = false := by
  obtain hu | ⟨u, t, hu, _, hs⟩ := upperChar_cases c
  · rw [hu, List.mem_singleton] at h
    rw [h, hc]
  · exact hs x (hu ▸ h)

-- The first character of an upper case is the whole upper case of its lower case.
theorem exists_lowerChar_of_upperChar {t : List Char} (hc : lowerChar c = [c])
    (h : upperChar c = u :: t) : ∃ l, lowerChar u = [l] ∧ upperChar l = [u] := by
  obtain hu | ⟨v, s, hu, hv, _⟩ := upperChar_cases c
  · obtain ⟨rfl, rfl⟩ := List.cons_eq_cons.1 (hu.symm.trans h)
    exact ⟨c, hc, hu⟩
  · obtain ⟨rfl, rfl⟩ := List.cons_eq_cons.1 (hu.symm.trans h)
    exact isReturned_iff.1 hv

end AccessReport.Case
