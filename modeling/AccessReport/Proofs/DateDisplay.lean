import AccessReport.Content.DateText
import AccessReport.Proofs.Cutting
import AccessReport.Proofs.Numeral

namespace AccessReport

theorem Decimal.isDigit_of_mem_digitsOf {c : Char} {n : Nat} (h : c ∈ digitsOf n) :
    isDigit c = true := by
  have hdigit (n : Nat) : isDigit (digitOf n) = true := by
    have hall : ∀ k < 10, isDigit (Char.ofNat ('0'.toNat + k)) = true := by decide
    exact hall (n % 10) (Nat.mod_lt n (by decide))
  have go (n : Nat) (tail : List Char) (htail : ∀ c ∈ tail, isDigit c = true) :
      ∀ c ∈ digitsOf.go n tail, isDigit c = true := by
    induction n, tail using digitsOf.go.induct with
    | case1 n tail hn =>
      rw [digitsOf.go, if_pos hn]
      exact List.forall_mem_cons.2 ⟨hdigit n, htail⟩
    | case2 n tail hn ih =>
      rw [digitsOf.go, if_neg hn]
      exact ih (List.forall_mem_cons.2 ⟨hdigit n, htail⟩)
  exact go n [] (List.forall_mem_nil _) c h

namespace Calendar

variable {ds rest : List Char} {s : Char} {width : Nat}

-- Digits are taken until there are enough of them or another character follows.
theorem takeDigits_append (hds : ∀ c ∈ ds, Decimal.isDigit c = true) (hwidth : ds.length ≤ width)
    (hrest : ds.length = width ∨ ∀ c ∈ rest.head?, Decimal.isDigit c = false) :
    takeDigits width (ds ++ rest) = (ds, rest) := by
  induction ds generalizing width with
  | nil =>
    cases width with
    | zero => rfl
    | succ width =>
      cases rest with
      | nil => rfl
      | cons c rest =>
        have hc := hrest.resolve_left (Nat.succ_ne_zero width).symm c rfl
        rw [List.nil_append, takeDigits, if_neg (by simp [hc])]
  | cons d ds ih =>
    cases width with
    | zero => cases hwidth
    | succ width =>
      have htail : takeDigits width (ds ++ rest) = (ds, rest) :=
        ih (fun c hc => hds c (.tail _ hc)) (Nat.le_of_succ_le_succ hwidth)
          (hrest.imp_left Nat.succ.inj)
      rw [List.cons_append, takeDigits, if_pos (hds d (.head _)), htail]

theorem isBlank_of_isDigit {c : Char} (h : Decimal.isDigit c = true) : Text.isBlank c = false := by
  simp only [Decimal.isDigit, Bool.and_eq_true, decide_eq_true_eq] at h
  have hlow : 0x30 ≤ c.toNat := h.1
  have hhigh : c.toNat ≤ 0x39 := h.2
  simp only [Text.isBlank, Bool.or_eq_false_iff, Bool.and_eq_false_iff, decide_eq_false_iff_not]
  omega

theorem Date.month_range (d : Date) : 1 ≤ d.month ∧ d.month ≤ 12 := by
  have h := d.exists_day
  simp only [isDay, Bool.and_eq_true, decide_eq_true_eq] at h
  omega

theorem Date.day_range (d : Date) : 1 ≤ d.day ∧ d.day ≤ 31 := by
  have h := d.exists_day
  have hmonth : daysInMonth d.year d.month ≤ 31 := by
    unfold daysInMonth
    split <;> split <;> decide
  simp only [isDay, Bool.and_eq_true, decide_eq_true_eq] at h
  omega

-- Digits with a space behind them, fewer than a year has.
structure Spaced (ds : List Char) : Prop where
  ne_nil : ds ≠ []
  digits : ∀ c ∈ ds, Decimal.isDigit c = true
  length : ds.length ≤ 2

theorem Spaced.readNumber (h : Spaced ds) (hwidth : 2 ≤ width) (rest : List Char) :
    readNumber width (ds ++ ' ' :: rest) = .ok (Decimal.ofDigits ds, ' ' :: rest) := by
  have ht : takeDigits width (ds ++ ' ' :: rest) = (ds, ' ' :: rest) :=
    takeDigits_append h.digits (Nat.le_trans h.length hwidth) <| .inr (by simp; decide)
  obtain ⟨d, ds, rfl⟩ := List.exists_cons_of_ne_nil h.ne_nil
  unfold Calendar.readNumber
  rw [ht]
  rfl

theorem Spaced.trimStart (h : Spaced ds) : Text.trimStart (ds ++ rest) = ds ++ rest := by
  obtain ⟨d, ds, rfl⟩ := List.exists_cons_of_ne_nil h.ne_nil
  have hd : Text.isBlank d = false := isBlank_of_isDigit (h.digits d (.head _))
  exact Text.trimStart_cons (ds ++ rest) hd

-- A year that begins with a digit has no sign.
theorem readYear_of_readNumber {c : Char} {cs : List Char} {n : Nat} (hc : Decimal.isDigit c = true)
    (hread : readNumber 4 (c :: cs) = .ok (n, rest)) :
    readYear (c :: cs) = .ok ((n : Int), rest) := by
  unfold readYear
  split
  case h_1 heq =>
    obtain ⟨rfl, _⟩ := List.cons_eq_cons.1 heq
    cases hc
  case h_2 heq =>
    obtain ⟨rfl, _⟩ := List.cons_eq_cons.1 heq
    cases hc
  case h_3 =>
    rw [Part.width, hread]
    rfl

-- A number is read up to the space.
theorem Spaced.readItem {part : Part} {p p' : Parts} {rest' : List Char} (h : Spaced ds)
    (hread : readItem (.number part) p (ds ++ ' ' :: rest) = .ok (p', rest')) :
    rest' = ' ' :: rest := by
  have hwidth : 2 ≤ part.width := by cases part <;> decide
  have hnumber := h.readNumber hwidth rest
  cases part with
  | year =>
    obtain ⟨d, ds, rfl⟩ := List.exists_cons_of_ne_nil h.ne_nil
    have hyear : readYear (d :: ds ++ ' ' :: rest) =
        .ok ((Decimal.ofDigits (d :: ds) : Int), ' ' :: rest) :=
      readYear_of_readNumber (h.digits d (.head _)) hnumber
    rw [Calendar.readItem, h.trimStart, hyear] at hread
    cases hread
    rfl
  | _ =>
    simp only [Calendar.readItem, h.trimStart, hnumber, bind, Except.bind] at hread
    split at hread
    case isTrue => cases hread
    case isFalse =>
      cases hread
      rfl

-- No pattern that asks for another character than a space behind its first number can be read.
theorem Spaced.readParts {part : Part} {items : List Item} (h : Spaced ds) (hs : ' ' ≠ s)
    (p : Parts) : ∃ fault, readParts (.number part :: .literal s :: items) p (ds ++ ' ' :: rest) =
      .error fault := by
  rw [Calendar.readParts]
  cases hread : Calendar.readItem (.number part) p (ds ++ ' ' :: rest) with
  | error fault => exact ⟨fault, rfl⟩
  | ok answer =>
    obtain ⟨p', rest'⟩ := answer
    obtain rfl := h.readItem hread
    have hliteral : Calendar.readItem (.literal s) p' (' ' :: rest) = .error .invalid := by
      rw [Calendar.readItem, if_neg hs]
    refine ⟨.invalid, ?_⟩
    simp only [bind, Except.bind, Calendar.readParts, hliteral]

end Calendar

namespace DateText

open Calendar

theorem forms_begin : ∀ f ∈ forms, yearFirst <+: f.items ∨ dayFirst <+: f.items := by
  decide

-- No form fits a text in which a space follows on the first one or two digits.
theorem Form.read_of_spaced {f : Form} {cs ds rest : List Char} (hf : f ∈ forms)
    (hzone : spellZone cs = cs) (hds : Spaced ds) (hcs : cs = ds ++ ' ' :: rest) :
    f.read cs = none := by
  subst hcs
  have hfault : ∃ fault, readParts f.items {} (ds ++ ' ' :: rest) = .error fault := by
    obtain ⟨items, hitems⟩ | ⟨items, hitems⟩ := forms_begin f hf
    · exact hitems ▸ hds.readParts (by decide) {}
    · exact hitems ▸ hds.readParts (by decide) {}
  obtain ⟨fault, hfault⟩ := hfault
  rw [Form.read, hzone, ite_self, hfault]

/-! ### Both ends of a display -/

theorem digitsOf_suffix_yearChars (year : Int) :
    Decimal.digitsOf year.natAbs <:+ yearChars year := by
  have hpadded : Decimal.digitsOf year.natAbs <:+ padded 4 year.natAbs := List.suffix_append _ _
  unfold yearChars
  split
  case isTrue => exact hpadded
  case isFalse => exact hpadded.trans (List.suffix_cons _ _)

theorem exists_digit_suffix (d : Date) : ∃ z, [z] <:+ d.longChars ∧ Decimal.isDigit z = true := by
  have hne := Decimal.digitsOf_ne_nil d.year.natAbs
  have hlong : yearChars d.year <:+ d.longChars :=
    (List.suffix_cons ' ' _).trans (List.suffix_append (_ ++ ' ' :: _) _)
  refine ⟨(Decimal.digitsOf d.year.natAbs).getLast hne, ?_,
    Decimal.isDigit_of_mem_digitsOf (List.getLast_mem hne)⟩
  have hlast : [(Decimal.digitsOf d.year.natAbs).getLast hne] <:+ Decimal.digitsOf d.year.natAbs :=
    ⟨_, List.dropLast_concat_getLast hne⟩
  exact hlast.trans ((digitsOf_suffix_yearChars d.year).trans hlong)

theorem half_suffix_chars (t : TimeOfDay) (withSeconds : Bool) :
    ['M'] <:+ t.chars withSeconds := by
  have hhalf : ['M'] <:+ t.half := by
    unfold TimeOfDay.half
    split <;> exact List.suffix_cons _ _
  exact hhalf.trans ((List.suffix_cons ' ' _).trans (List.suffix_append _ _))

theorem exists_suffix_display (precision : Precision) (d : Date) (t : TimeOfDay) :
    ∃ z, [z] <:+ display precision d t ∧ (Decimal.isDigit z = true ∨ z = 'M') := by
  have htime (withSeconds : Bool) :
      ['M'] <:+ d.longChars ++ ',' :: ' ' :: t.chars withSeconds :=
    (half_suffix_chars t withSeconds).trans <|
      (List.suffix_cons ' ' _).trans <| (List.suffix_cons ',' _).trans (List.suffix_append _ _)
  cases precision with
  | date =>
    obtain ⟨z, hz, hdigit⟩ := exists_digit_suffix d
    exact ⟨z, hz, .inl hdigit⟩
  | minutes => exact ⟨'M', htime false, .inr rfl⟩
  | seconds => exact ⟨'M', htime true, .inr rfl⟩

theorem display_eq (precision : Precision) (d : Date) (t : TimeOfDay) :
    ∃ rest, display precision d t = Decimal.digitsOf d.day ++ ' ' :: rest := by
  cases precision with
  | date => exact ⟨_, List.append_assoc _ _ _⟩
  | minutes => exact ⟨_, (List.append_assoc _ _ _).trans (List.append_assoc _ _ _)⟩
  | seconds => exact ⟨_, (List.append_assoc _ _ _).trans (List.append_assoc _ _ _)⟩

theorem spaced_day (d : Date) : Spaced (Decimal.digitsOf d.day) where
  ne_nil := Decimal.digitsOf_ne_nil _
  digits := fun _ => Decimal.isDigit_of_mem_digitsOf
  length := by
    have hday := d.day_range
    exact Decimal.length_digitsOf_le (by decide) (by omega)

/-! ### A display is no date -/

-- A display begins with a digit.
theorem exists_prefix_display (precision : Precision) (d : Date) (t : TimeOfDay) :
    ∃ a, [a] <+: display precision d t ∧ Decimal.isDigit a = true := by
  obtain ⟨rest, hdisplay⟩ := display_eq precision d t
  obtain ⟨a, ds, hday⟩ := List.exists_cons_of_ne_nil (spaced_day d).ne_nil
  refine ⟨a, ?_, (spaced_day d).digits a (hday ▸ .head _)⟩
  rw [hdisplay, hday]
  exact ⟨ds ++ ' ' :: rest, rfl⟩

theorem trim_display (precision : Precision) (d : Date) (t : TimeOfDay) :
    Text.trim (display precision d t) = display precision d t := by
  obtain ⟨a, ha, hdigit⟩ := exists_prefix_display precision d t
  obtain ⟨z, hz, hlast⟩ := exists_suffix_display precision d t
  refine Text.trim_eq_self ha hz ⟨isBlank_of_isDigit hdigit, ?_⟩
  obtain hdigit | rfl := hlast
  · exact isBlank_of_isDigit hdigit
  · decide

theorem spellZone_display (precision : Precision) (d : Date) (t : TimeOfDay) :
    spellZone (display precision d t) = display precision d t := by
  obtain ⟨z, ⟨front, hfront⟩, hlast⟩ := exists_suffix_display precision d t
  rw [← hfront, spellZone, List.reverse_concat]
  refine if_neg ?_
  obtain hdigit | rfl := hlast
  · intro hz
    simp only [Bool.or_eq_true, decide_eq_true_eq] at hz
    obtain rfl | rfl := hz <;> cases hdigit
  · decide

-- What dates and times are displayed as is in none of the forms that they are read in.
theorem reformat?_display (precision : Precision) (d : Date) (t : TimeOfDay) :
    reformat? (String.ofList (display precision d t)) = none := by
  obtain ⟨rest, hdisplay⟩ := display_eq precision d t
  have hread : ∀ f ∈ forms, (f.read (display precision d t)).map
      (fun x => String.ofList (display f.precision x.1 x.2)) = none := by
    intro f hf
    rw [Form.read_of_spaced hf (spellZone_display precision d t) (spaced_day d) hdisplay]
    rfl
  simp only [reformat?, String.toList_ofList, trim_display]
  split
  case isTrue => exact List.findSome?_eq_none_iff.2 hread
  case isFalse => rfl

-- What a text is replaced by is the display of what the form makes of it that it fits.
theorem exists_read_of_reformat? {s shown : String} (h : reformat? s = some shown) :
    isCandidate (Text.trim s.toList) = true ∧ ∃ f ∈ forms, ∃ d t,
      f.read (Text.trim s.toList) = some (d, t) ∧
        shown = String.ofList (display f.precision d t) := by
  unfold reformat? at h
  dsimp only at h
  split at h
  case isTrue hcandidate =>
    obtain ⟨f, hf, hmap⟩ := List.exists_of_findSome?_eq_some h
    obtain ⟨⟨d, t⟩, hread, rfl⟩ := Option.map_eq_some_iff.1 hmap
    exact ⟨hcandidate, f, hf, d, t, hread, rfl⟩
  case isFalse => cases h

theorem exists_display_of_reformat? {s shown : String} (h : reformat? s = some shown) :
    ∃ precision d t, shown = String.ofList (display precision d t) := by
  obtain ⟨-, f, -, d, t, -, rfl⟩ := exists_read_of_reformat? h
  exact ⟨f.precision, d, t, rfl⟩

end DateText
end AccessReport
