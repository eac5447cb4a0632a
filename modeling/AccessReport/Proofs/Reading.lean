import AccessReport.Proofs.DateDisplay
import Mathlib.Data.List.Basic
import Mathlib.Data.List.Induction

namespace AccessReport

/-! ### Digits -/

namespace Decimal

-- Only digits, and at least one.
structure IsNumeral (ds : List Char) : Prop where
  ne_nil : ds ≠ []
  digits : ∀ c ∈ ds, isDigit c = true

variable {ds es : List Char}

theorem ofDigits_concat (ds : List Char) (c : Char) :
    ofDigits (ds ++ [c]) = ofDigits ds * 10 + (c.toNat - 48) := by
  rw [ofDigits, List.foldl_concat]
  rfl

theorem ofDigits_digitsOf (n : Nat) : ofDigits (digitsOf n) = n := by
  refine foldl_digitsOf (fun m k => ?_) n
  rw [toNat_digitOf]
  exact congrArg _ (Nat.add_sub_cancel_left 48 _)

theorem toNat_of_isDigit {c : Char} (h : isDigit c = true) : 48 ≤ c.toNat ∧ c.toNat ≤ 57 := by
  simp only [isDigit, Bool.and_eq_true, decide_eq_true_eq] at h
  exact h

theorem ofDigits_lt (h : ∀ c ∈ ds, isDigit c = true) : ofDigits ds < 10 ^ ds.length := by
  induction ds using List.reverseRecOn with
  | nil => decide
  | append_singleton ds c ih =>
    have hc := toNat_of_isDigit (h c (by simp))
    have hds := ih fun c hc => h c (by simp [hc])
    rw [ofDigits_concat, List.length_append, List.length_singleton, Nat.pow_succ]
    omega

-- Numerals of one length differ in what they name.
theorem ofDigits_injective (hds : ∀ c ∈ ds, isDigit c = true) (hes : ∀ c ∈ es, isDigit c = true)
    (hlength : ds.length = es.length) (h : ofDigits ds = ofDigits es) : ds = es := by
  induction ds using List.reverseRecOn generalizing es with
  | nil => exact (List.length_eq_zero_iff.1 hlength.symm).symm
  | append_singleton ds c ih =>
    obtain rfl | ⟨es, e, rfl⟩ := List.eq_nil_or_concat' es
    · simp at hlength
    · have hc := toNat_of_isDigit (hds c (by simp))
      have he := toNat_of_isDigit (hes e (by simp))
      rw [ofDigits_concat, ofDigits_concat] at h
      have hce : c = e := Char.toNat_inj.1 (by omega)
      have hdigits : ∀ c ∈ ds, isDigit c = true := fun c hc => hds c (by simp [hc])
      have hdigits' : ∀ c ∈ es, isDigit c = true := fun c hc => hes c (by simp [hc])
      rw [ih hdigits hdigits' (by simpa using hlength) (by omega), hce]

end Decimal

theorem Utf8.length_le_byteLength (cs : List Char) : cs.length ≤ Utf8.byteLength cs := by
  have hchar (c : Char) : 1 ≤ (Utf8.encodeChar c).length := by
    unfold Utf8.encodeChar
    dsimp only
    split <;> [skip; split <;> [skip; split]] <;> simp
  induction cs with
  | nil => exact Nat.zero_le _
  | cons c cs ih =>
    have := hchar c
    simp only [Utf8.byteLength, Utf8.encode, List.flatMap_cons, List.length_append] at ih ⊢
    rw [List.length_cons]
    omega

namespace Calendar

open Decimal

variable {ds rest cs : List Char} {c : Char} {width n : Nat}

theorem isNumeral_padded (width n : Nat) : IsNumeral (padded width n) where
  ne_nil := by simp [padded, digitsOf_ne_nil]
  digits := by
    intro c hc
    obtain hc | hc := List.mem_append.1 hc
    · rw [List.eq_of_mem_replicate hc]
      rfl
    · exact isDigit_of_mem_digitsOf hc

theorem length_padded (hwidth : 0 < width) (h : n < 10 ^ width) :
    (padded width n).length = width := by
  have := length_digitsOf_le hwidth h
  simp only [padded, List.length_append, List.length_replicate]
  omega

theorem le_length_padded (width n : Nat) : width ≤ (padded width n).length := by
  simp only [padded, List.length_append, List.length_replicate]
  omega

theorem ofDigits_padded (width n : Nat) : ofDigits (padded width n) = n := by
  have hzeros (k : Nat) : (List.replicate k '0').foldl
      (fun n c => n * 10 + (c.toNat - '0'.toNat)) 0 = 0 := by
    induction k with
    | zero => rfl
    | succ k ih => exact ih
  rw [padded, ofDigits, List.foldl_append, hzeros]
  exact ofDigits_digitsOf n

-- A numeral as wide as it is to be is written as it was.
theorem padded_ofDigits (h : IsNumeral ds) : padded ds.length (ofDigits ds) = ds := by
  have hlength := length_padded (List.length_pos_iff_ne_nil.2 h.ne_nil) (ofDigits_lt h.digits)
  exact ofDigits_injective (isNumeral_padded _ _).digits h.digits hlength (ofDigits_padded _ _)

theorem takeWhile_of_stops (hds : ∀ c ∈ ds, isDigit c = true)
    (hrest : ∀ c ∈ rest.head?, isDigit c = false) : (ds ++ rest).takeWhile isDigit = ds := by
  rw [List.takeWhile_append_of_pos hds]
  cases rest with
  | nil => simp
  | cons c rest => simp [hrest c rfl]

-- The digits that a number is read from, and what follows them: digits are taken until there are
-- enough of them or another character follows.
structure Leads (width : Nat) (ds rest : List Char) : Prop where
  numeral : IsNumeral ds
  length  : ds.length ≤ width
  stops   : ds.length = width ∨ ∀ c ∈ rest.head?, isDigit c = false

theorem takeDigits_spec (width : Nat) (cs : List Char) :
    ∃ ds rest, takeDigits width cs = (ds, rest) ∧ cs = ds ++ rest ∧
      (∀ c ∈ ds, isDigit c = true) ∧ ds.length ≤ width ∧
      (ds.length = width ∨ ∀ c ∈ rest.head?, isDigit c = false) := by
  induction cs generalizing width with
  | nil =>
    cases width with
    | zero => exact ⟨[], [], by simp [takeDigits]⟩
    | succ width => exact ⟨[], [], by simp [takeDigits]⟩
  | cons c cs ih =>
    cases width with
    | zero => exact ⟨[], c :: cs, by simp [takeDigits]⟩
    | succ width =>
      by_cases hc : isDigit c = true
      · obtain ⟨ds, rest, ht, hcs, hdigits, hlength, hstops⟩ := ih width
        refine ⟨c :: ds, rest, ?_, congrArg (c :: ·) hcs, List.forall_mem_cons.2 ⟨hc, hdigits⟩,
          Nat.succ_le_succ hlength, hstops.imp_left (congrArg Nat.succ)⟩
        rw [takeDigits, if_pos hc, ht]
      · exact ⟨[], c :: cs, by simp [takeDigits, hc]⟩

theorem readNumber_eq_ok_iff : readNumber width cs = .ok (n, rest) ↔
    ∃ ds, Leads width ds rest ∧ cs = ds ++ rest ∧ n = ofDigits ds := by
  constructor
  case mp =>
    intro h
    obtain ⟨ds, rest', ht, hcs, hdigits, hlength, hstops⟩ := takeDigits_spec width cs
    cases cs with
    | nil => cases h
    | cons c cs =>
      cases ds with
      | nil => simp [readNumber, ht] at h
      | cons d ds =>
        simp only [readNumber, ht, Except.ok.injEq, Prod.mk.injEq] at h
        obtain ⟨rfl, rfl⟩ := h
        exact ⟨d :: ds, ⟨⟨List.cons_ne_nil d ds, hdigits⟩, hlength, hstops⟩, hcs, rfl⟩
  case mpr =>
    rintro ⟨ds, ⟨⟨hne, hdigits⟩, hlength, hstops⟩, rfl, rfl⟩
    have ht := takeDigits_append hdigits hlength hstops
    obtain ⟨d, ds, rfl⟩ := List.exists_cons_of_ne_nil hne
    unfold readNumber
    rw [ht]
    rfl

/-! ### Items -/

variable {p p' q : Parts} {part : Part} {item : Item} {items : List Item} {y : Int}

theorem bind_eq_ok_iff {α β : Type} {x : Except Fault α} {f : α → Except Fault β} {b : β} :
    x >>= f = .ok b ↔ ∃ a, x = .ok a ∧ f a = .ok b := by
  cases x <;> simp [bind, Except.bind]

theorem readItem_literal_eq_ok_iff :
    readItem (.literal c) p cs = .ok (p', rest) ↔ p' = p ∧ cs = c :: rest := by
  cases cs with
  | nil => simp [readItem]
  | cons d cs =>
    by_cases hd : d = c
    · simp [readItem, hd, eq_comm]
    · simp [readItem, hd]

theorem readItem_number_eq_ok_iff (hpart : part ≠ .year) :
    readItem (.number part) p cs = .ok (p', rest) ↔
      ∃ ds, Leads part.width ds rest ∧ Text.trimStart cs = ds ++ rest ∧
        part.minimum ≤ ofDigits ds ∧ ofDigits ds ≤ part.maximum ∧
        p' = p.set part (ofDigits ds) := by
  have hread : readItem (.number part) p cs =
      readNumber part.width (Text.trimStart cs) >>= fun x =>
        if x.1 < part.minimum || part.maximum < x.1 then .error .outOfRange
        else .ok (p.set part x.1, x.2) := by
    cases part with
    | year => exact absurd rfl hpart
    | _ => rfl
  rw [hread, bind_eq_ok_iff]
  constructor
  case mp =>
    rintro ⟨⟨n, rest'⟩, hn, h⟩
    obtain ⟨ds, hleads, hcs, rfl⟩ := readNumber_eq_ok_iff.1 hn
    dsimp only at h
    split at h
    case isTrue => cases h
    case isFalse hrange =>
      cases h
      simp only [Bool.or_eq_true, decide_eq_true_eq, not_or, Nat.not_lt] at hrange
      exact ⟨ds, hleads, hcs, hrange.1, hrange.2, rfl⟩
  case mpr =>
    rintro ⟨ds, hleads, hcs, hmin, hmax, rfl⟩
    refine ⟨_, readNumber_eq_ok_iff.2 ⟨ds, hleads, hcs, rfl⟩, if_neg ?_⟩
    simp [hmin, hmax]

theorem readItem_year_eq_ok_iff : readItem (.number .year) p cs = .ok (p', rest) ↔
    ∃ y, readYear (Text.trimStart cs) = .ok (y, rest) ∧ p' = { p with year := y } := by
  rw [readItem, bind_eq_ok_iff]
  constructor
  · rintro ⟨⟨y, rest⟩, hy, h⟩
    cases h
    exact ⟨y, hy, rfl⟩
  · rintro ⟨y, hy, rfl⟩
    exact ⟨_, hy, rfl⟩

theorem readYear_of_leads {ds : List Char} (h : Leads 4 ds rest) :
    readYear (ds ++ rest) = .ok ((ofDigits ds : Int), rest) := by
  have hread := readNumber_eq_ok_iff.2 ⟨ds, h, rfl, rfl⟩
  obtain ⟨d, ds, rfl⟩ := List.exists_cons_of_ne_nil h.numeral.ne_nil
  exact readYear_of_readNumber (h.numeral.digits d (.head _)) hread

theorem readParts_cons_eq_ok_iff : readParts (item :: items) p cs = .ok q ↔
    ∃ p' rest, readItem item p cs = .ok (p', rest) ∧ readParts items p' rest = .ok q := by
  simp [readParts, bind_eq_ok_iff]

-- A year is at most four digits, or all digits behind a sign.
theorem readYear_cases (h : readYear cs = .ok (y, rest)) :
    (∃ tail n, cs = '-' :: tail ∧ readNumber tail.length tail = .ok (n, rest) ∧ y = -(n : Int)) ∨
    (∃ tail n, cs = '+' :: tail ∧ readNumber tail.length tail = .ok (n, rest) ∧ y = (n : Int)) ∨
    ((∀ c ∈ cs.head?, c ≠ '-' ∧ c ≠ '+') ∧
      ∃ n, readNumber 4 cs = .ok (n, rest) ∧ y = (n : Int)) := by
  unfold readYear at h
  split at h
  case h_1 =>
    obtain ⟨⟨n, rest'⟩, hn, h⟩ := bind_eq_ok_iff.1 h
    dsimp only at h
    split at h <;> cases h
    exact .inl ⟨_, _, rfl, hn, rfl⟩
  case h_2 =>
    obtain ⟨⟨n, rest'⟩, hn, h⟩ := bind_eq_ok_iff.1 h
    dsimp only at h
    split at h <;> cases h
    exact .inr <| .inl ⟨_, _, rfl, hn, rfl⟩
  case h_3 hminus hplus =>
    obtain ⟨⟨n, rest'⟩, hn, h⟩ := bind_eq_ok_iff.1 h
    cases h
    refine .inr <| .inr ⟨fun c hc => ?_, _, hn, rfl⟩
    obtain ⟨tail, rfl⟩ : ∃ tail, cs = c :: tail := List.head?_eq_some_iff.1 hc
    exact ⟨fun he => hminus tail (he ▸ rfl), fun he => hplus tail (he ▸ rfl)⟩

/-! ### What items make of a text -/

-- What a pattern makes of a text, faults aside.
def fit (items : List Item) (p : Parts) (cs : List Char) : Option Parts :=
  (readParts items p cs).toOption

theorem fit_eq_some_iff : fit items p cs = some q ↔ readParts items p cs = .ok q := by
  unfold fit
  cases readParts items p cs <;> simp [Except.toOption]

theorem fit_of_readItem {item : Item} (h : readItem item p cs = .ok (p', rest)) :
    fit (item :: items) p cs = fit items p' rest := by
  simp [fit, readParts, h, bind, Except.bind]

theorem fit_eq_none {item : Item} (h : ∀ p' rest, readItem item p cs ≠ .ok (p', rest)) :
    fit (item :: items) p cs = none := by
  rw [Option.eq_none_iff_forall_ne_some]
  intro q hq
  obtain ⟨p', rest, hread, -⟩ := readParts_cons_eq_ok_iff.1 (fit_eq_some_iff.1 hq)
  exact h p' rest hread

theorem fit_nil (p : Parts) : fit [] p [] = some p :=
  rfl

theorem fit_trailing (p : Parts) (c : Char) (cs : List Char) : fit [] p (c :: cs) = none :=
  rfl

theorem fit_literal : fit (.literal c :: items) p (c :: cs) = fit items p cs :=
  fit_of_readItem <| readItem_literal_eq_ok_iff.2 ⟨rfl, rfl⟩

theorem fit_literal_nil : fit (.literal c :: items) p [] = none :=
  rfl

theorem fit_literal_of_ne (h : d ≠ c) : fit (.literal c :: items) p (d :: cs) = none :=
  fit_eq_none fun p' rest hread => by
    obtain ⟨-, hcs⟩ := readItem_literal_eq_ok_iff.1 hread
    exact h (List.cons_eq_cons.1 hcs).1

theorem fit_blanks : fit (.blanks :: items) p cs = fit items p (Text.trimStart cs) :=
  fit_of_readItem rfl

theorem trimStart_padded (width n : Nat) (cs : List Char) :
    Text.trimStart (padded width n ++ cs) = padded width n ++ cs := by
  have hpadded := isNumeral_padded width n
  obtain ⟨d, ds, hds⟩ := List.exists_cons_of_ne_nil hpadded.ne_nil
  have hd : Text.isBlank d = false := isBlank_of_isDigit (hpadded.digits d (hds ▸ .head _))
  rw [hds]
  exact Text.trimStart_cons (ds ++ cs) hd

theorem leads_padded {width : Nat} (hwidth : 0 < width) (h : n < 10 ^ width) :
    Leads width (padded width n) rest :=
  have hlength := length_padded hwidth h
  ⟨isNumeral_padded width n, Nat.le_of_eq hlength, .inl hlength⟩

theorem fit_number (hpart : part ≠ .year) (hn : n < 100) (hmin : part.minimum ≤ n)
    (hmax : n ≤ part.maximum) : fit (.number part :: items) p (padded 2 n ++ cs) =
      fit items (p.set part n) cs := by
  have hwidth : part.width = 2 := by
    cases part <;> first | rfl | exact absurd rfl hpart
  have hleads : Leads part.width (padded 2 n) cs := by
    rw [hwidth]
    exact leads_padded (by decide) hn
  have hvalue := ofDigits_padded 2 n
  exact fit_of_readItem <| (readItem_number_eq_ok_iff hpart).2
    ⟨padded 2 n, hleads, trimStart_padded 2 n cs, by rwa [hvalue], by rwa [hvalue], by rw [hvalue]⟩

theorem fit_year (hn : n < 10000) : fit (.number .year :: items) p (padded 4 n ++ cs) =
    fit items { p with year := n } cs := by
  have hleads : Leads 4 (padded 4 n) cs := leads_padded (by decide) hn
  have hyear := readYear_of_leads hleads
  rw [ofDigits_padded] at hyear
  exact fit_of_readItem <| readItem_year_eq_ok_iff.2 ⟨n, by rwa [trimStart_padded], rfl⟩

theorem fit_number_of_not_digit (hpart : part ≠ .year) (hdigit : isDigit c = false)
    (hblank : Text.isBlank c = false) : fit (.number part :: items) p (c :: cs) = none :=
  fit_eq_none fun p' rest hread => by
    obtain ⟨ds, hleads, hcs, -⟩ := (readItem_number_eq_ok_iff hpart).1 hread
    rw [Text.trimStart_cons cs hblank] at hcs
    obtain ⟨d, ds, rfl⟩ := List.exists_cons_of_ne_nil hleads.numeral.ne_nil
    obtain ⟨rfl, -⟩ := List.cons_eq_cons.1 hcs
    simp [hleads.numeral.digits c (.head _)] at hdigit

theorem fit_fraction {ds : List Char} (hds : IsNumeral ds)
    (hrest : ∀ c ∈ rest.head?, isDigit c = false) :
    fit (.fraction :: items) p ('.' :: (ds ++ rest)) = fit items p rest := by
  -- Nine digits are read as a number, those behind them are passed over.
  have hcs : ds ++ rest = ds.take 9 ++ (ds.drop 9 ++ rest) := by
    rw [← List.append_assoc, List.take_append_drop]
  have hleads : Leads 9 (ds.take 9) (ds.drop 9 ++ rest) := by
    refine ⟨⟨by simp [hds.ne_nil], fun c hc => hds.digits c (List.mem_of_mem_take hc)⟩,
      List.length_take_le .., ?_⟩
    by_cases hlength : ds.length ≤ 9
    · exact .inr <| by rwa [List.drop_of_length_le hlength, List.nil_append]
    · exact .inl <| List.length_take_of_le (by omega)
  have hdrop : (ds ++ rest).dropWhile isDigit = rest := by
    rw [List.dropWhile_append_of_pos hds.digits]
    cases rest with
    | nil => rfl
    | cons c rest => rw [List.dropWhile_cons_of_neg (by simp [hrest c rfl])]
  have hnumber := readNumber_eq_ok_iff.2 ⟨_, hleads, hcs, rfl⟩
  exact fit_of_readItem <| bind_eq_ok_iff.2
    ⟨rest, bind_eq_ok_iff.2 ⟨_, hnumber, congrArg Except.ok hdrop⟩, rfl⟩

theorem fit_without_fraction (h : ∀ c ∈ cs.head?, c ≠ '.') :
    fit (.fraction :: items) p cs = fit items p cs := by
  refine fit_of_readItem <| bind_eq_ok_iff.2 ⟨cs, ?_, rfl⟩
  unfold readFraction
  split
  case h_1 => exact absurd rfl (h '.' rfl)
  case h_2 => rfl

theorem twoDigits_padded (hn : n < 100) :
    twoDigits (padded 2 n ++ rest) = .ok (n / 10, n % 10, rest) := by
  have hnumeral := isNumeral_padded 2 n
  have hvalue := ofDigits_padded 2 n
  have hlength : (padded 2 n).length = 2 := length_padded (by decide) hn
  obtain ⟨a, b, hab⟩ := List.length_eq_two.1 hlength
  rw [hab] at hnumeral hvalue ⊢
  have ha := toNat_of_isDigit (hnumeral.digits a (.head _))
  have hb := toNat_of_isDigit (hnumeral.digits b (.tail _ (.head _)))
  have hvalue : (a.toNat - 48) * 10 + (b.toNat - 48) = n := by
    simpa [ofDigits] using hvalue
  have hlength : ¬ Utf8.byteLength (a :: b :: rest) < 2 := by
    have := Utf8.length_le_byteLength (a :: b :: rest)
    simp only [List.length_cons] at this
    omega
  have hdigits : (isDigit a && isDigit b) = true := by
    rw [hnumeral.digits a (.head _), hnumeral.digits b (.tail _ (.head _))]
    rfl
  have hten : a.toNat - '0'.toNat = n / 10 := by
    change a.toNat - 48 = n / 10
    omega
  have hone : b.toNat - '0'.toNat = n % 10 := by
    change b.toNat - 48 = n % 10
    omega
  change twoDigits (a :: b :: rest) = _
  rw [twoDigits, if_neg hlength, if_pos hdigits, hten, hone]

-- A sign with hours and minutes, in minutes.
theorem readOffset_padded {sign : Char} {hours minutes : Nat} (hsign : sign = '+' ∨ sign = '-')
    (hhours : hours < 24) (hminutes : minutes < 60) (rest : List Char) :
    ∃ offset : Int, offset.natAbs < 24 * 60 ∧
      readOffset (sign :: (padded 2 hours ++ ':' :: (padded 2 minutes ++ rest))) =
        .ok (offset, rest) := by
  obtain ⟨negative, hread⟩ : ∃ negative, ∀ cs, readSign (sign :: cs) = .ok (negative, cs) := by
    obtain rfl | rfl := hsign
    · exact ⟨false, fun _ => rfl⟩
    · exact ⟨true, fun _ => rfl⟩
  have hcolon : (':' :: (padded 2 minutes ++ rest)).dropWhile
      (fun c => decide (c = ':') || Text.isBlank c) = padded 2 minutes ++ rest := by
    obtain ⟨d, ds, hds⟩ := List.exists_cons_of_ne_nil (isNumeral_padded 2 minutes).ne_nil
    have hd := (isNumeral_padded 2 minutes).digits d (hds ▸ .head _)
    have hne : d ≠ ':' := by
      rintro rfl
      cases hd
    rw [List.dropWhile_cons_of_pos (by decide), hds, List.cons_append,
      List.dropWhile_cons_of_neg (by simp [hne, isBlank_of_isDigit hd])]
  have htens : ¬ 6 ≤ minutes / 10 := by omega
  unfold readOffset
  simp only [hread, bind, Except.bind, twoDigits_padded (show hours < 100 by omega), hcolon,
    twoDigits_padded (show minutes < 100 by omega), if_neg htens]
  refine ⟨_, ?_, rfl⟩
  split <;> omega

theorem fit_offset {sign : Char} {hours minutes : Nat} (hsign : sign = '+' ∨ sign = '-')
    (hhours : hours < 24) (hminutes : minutes < 60) (items : List Item) (rest : List Char) :
    ∃ offset : Int, offset.natAbs < 24 * 60 ∧ ∀ p, fit (.offset :: items) p
        (sign :: (padded 2 hours ++ ':' :: (padded 2 minutes ++ rest))) =
      fit items { p with offset } rest := by
  obtain ⟨offset, hlt, hread⟩ := readOffset_padded hsign hhours hminutes rest
  have hblank : Text.isBlank sign = false := by
    obtain rfl | rfl := hsign <;> decide
  refine ⟨offset, hlt, fun p => fit_of_readItem <| bind_eq_ok_iff.2 ⟨(offset, rest), ?_, rfl⟩⟩
  rw [Text.trimStart_cons _ hblank, hread]

theorem fit_offset_of_not_sign (hsign : c ≠ '+' ∧ c ≠ '-' ∧ c ≠ '\u2212')
    (hblank : Text.isBlank c = false) : fit (.offset :: items) p (c :: cs) = none :=
  fit_eq_none fun p' rest hread => by
    obtain ⟨_, hread, -⟩ := bind_eq_ok_iff.1 hread
    obtain ⟨_, hread, -⟩ := bind_eq_ok_iff.1 hread
    rw [Text.trimStart_cons cs hblank, readSign, if_neg hsign.1,
      if_neg (by simp [hsign.2])] at hread
    cases hread

/-! ### Forms -/

-- The day and the time that were read, if there is such a day.
def Parts.moment? (p : Parts) : Option (Date × TimeOfDay) :=
  (Date.ofParts? p.year p.month p.day).bind fun d =>
    if p.hasOffset then some (d, p.time) else none

end Calendar

namespace DateText

open Calendar Decimal

-- The text that a form reads, with its zone spelled out if the form has one.
def Form.spelling (f : Form) (cs : List Char) : List Char :=
  if f.hasOffset then spellZone cs else cs

theorem Form.read_eq (f : Form) (cs : List Char) :
    f.read cs = (fit f.items {} (f.spelling cs)).bind Parts.moment? := by
  unfold Form.read fit Form.spelling Parts.moment? Parts.date
  cases readParts f.items {} (if f.hasOffset then spellZone cs else cs) with
  | error fault => rfl
  | ok p => cases hd : Date.ofParts? p.year p.month p.day <;> simp [Except.toOption, hd]

-- A last letter is spelled out; nothing else changes.
theorem spellZone_cases (cs : List Char) : spellZone cs = cs ∨ ∃ stem c, cs = stem ++ [c] ∧
    isDigit c = false ∧ spellZone cs = stem ++ ['+', '0', '0', ':', '0', '0'] := by
  obtain rfl | ⟨stem, c, rfl⟩ := List.eq_nil_or_concat' cs
  · exact .inl rfl
  · simp only [spellZone, List.reverse_concat, List.reverse_reverse]
    split
    case isTrue hc =>
      simp only [Bool.or_eq_true, decide_eq_true_eq] at hc
      refine .inr ⟨stem, c, rfl, ?_, rfl⟩
      obtain rfl | rfl := hc <;> rfl
    case isFalse => exact .inl rfl

end DateText
end AccessReport
