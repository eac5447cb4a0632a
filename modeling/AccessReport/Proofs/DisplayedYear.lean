import AccessReport.Proofs.Cutting
import AccessReport.Proofs.Reading
import Mathlib.Data.List.TakeWhile

namespace AccessReport

open Decimal

namespace Calendar

variable {cs rest : List Char} {p p' q : Parts} {item : Item} {items : List Item} {y : Int}

/-! ### What a year is read from -/

-- Digits, or a sign and digits, as many as there are.
def yearDigits : List Char → List Char
  | [] => []
  | c :: cs =>
    if c = '+' || c = '-' then c :: cs.takeWhile isDigit else (c :: cs).takeWhile isDigit

-- The year that a group of digits names: that of its first four, or that of all behind a sign.
inductive Names : List Char → Int → Prop
  | digits {ds : List Char} (h : IsNumeral ds) : Names ds (ofDigits (ds.take 4))
  | plus {ds : List Char} (h : IsNumeral ds) : Names ('+' :: ds) (ofDigits ds)
  | minus {ds : List Char} (h : IsNumeral ds) : Names ('-' :: ds) (-(ofDigits ds))

-- A number takes the first digits of all that there are.
theorem Leads.take_takeWhile {ds : List Char} {width : Nat} (h : Leads width ds rest) :
    ((ds ++ rest).takeWhile isDigit).take width = ds := by
  obtain hlength | hrest := h.stops
  · rw [List.takeWhile_append_of_pos h.numeral.digits, ← hlength, List.take_left]
  · rw [takeWhile_of_stops h.numeral.digits hrest, List.take_of_length_le h.length]

theorem isNumeral_takeWhile {ds : List Char} {width : Nat} (h : Leads width ds rest) :
    IsNumeral ((ds ++ rest).takeWhile isDigit) where
  ne_nil := by
    intro hnil
    have := h.take_takeWhile
    rw [hnil, List.take_nil] at this
    exact h.numeral.ne_nil this.symm
  digits := fun c hc => List.mem_takeWhile_imp hc

-- Behind a sign all digits count.
theorem isNumeral_of_readNumber {n : Nat} (h : readNumber cs.length cs = .ok (n, rest)) :
    IsNumeral (cs.takeWhile isDigit) ∧ n = ofDigits (cs.takeWhile isDigit) := by
  obtain ⟨ds, hleads, rfl, rfl⟩ := readNumber_eq_ok_iff.1 h
  have hds := hleads.take_takeWhile
  rw [List.take_of_length_le (List.takeWhile_prefix _).length_le] at hds
  exact ⟨hds.symm ▸ hleads.numeral, congrArg ofDigits hds.symm⟩

theorem names_of_readYear (h : readYear cs = .ok (y, rest)) : Names (yearDigits cs) y := by
  obtain ⟨tail, n, rfl, hn, rfl⟩ | ⟨tail, n, rfl, hn, rfl⟩ | ⟨hsign, n, hn, rfl⟩ := readYear_cases h
  · obtain ⟨hnumeral, rfl⟩ := isNumeral_of_readNumber hn
    exact .minus hnumeral
  · obtain ⟨hnumeral, rfl⟩ := isNumeral_of_readNumber hn
    exact .plus hnumeral
  · obtain ⟨ds, hleads, rfl, rfl⟩ := readNumber_eq_ok_iff.1 hn
    obtain ⟨c, ds, rfl⟩ := List.exists_cons_of_ne_nil hleads.numeral.ne_nil
    have hc := hsign c rfl
    have hdigits : yearDigits (c :: ds ++ rest) = (c :: ds ++ rest).takeWhile isDigit :=
      if_neg (by simp [hc])
    rw [hdigits]
    have hnames := Names.digits (isNumeral_takeWhile hleads)
    rwa [hleads.take_takeWhile] at hnames

-- Nothing but the year's own item sets the year.
theorem year_of_readItem (hitem : item ≠ .number .year)
    (h : readItem item p cs = .ok (p', rest)) : p'.year = p.year := by
  cases item with
  | number part =>
    have hpart : part ≠ .year := fun he => hitem (he ▸ rfl)
    obtain ⟨ds, -, -, -, -, rfl⟩ := (readItem_number_eq_ok_iff hpart).1 h
    cases part <;> first | rfl | exact absurd rfl hpart
  | literal c => rw [(readItem_literal_eq_ok_iff.1 h).1]
  | blanks =>
    cases h
    rfl
  | fraction =>
    obtain ⟨_, _, h⟩ := bind_eq_ok_iff.1 h
    cases h
    rfl
  | offset =>
    obtain ⟨_, _, h⟩ := bind_eq_ok_iff.1 h
    cases h
    rfl

theorem year_of_readParts (hitems : .number .year ∉ items) (h : readParts items p cs = .ok q) :
    q.year = p.year := by
  induction items generalizing p cs with
  | nil =>
    cases cs with
    | nil =>
      cases h
      rfl
    | cons c cs => cases h
  | cons item items ih =>
    obtain ⟨p', rest, hread, hrest⟩ := readParts_cons_eq_ok_iff.1 h
    have hitem : item ≠ .number .year := fun he => hitems (he ▸ .head _)
    rw [ih (fun hi => hitems (.tail _ hi)) hrest, year_of_readItem hitem hread]

end Calendar

namespace DateText

open Calendar

variable {f : Form} {cs rest : List Char} {d : Date} {t : TimeOfDay} {c : Char} {p q : Parts}
  {items : List Item}

/-! ### The place of the year -/

def behindSlash (cs : List Char) : List Char :=
  (cs.dropWhile (· ≠ '/')).tail

-- A hyphen follows on the digits in front.
def Hyphenated (cs : List Char) : Prop :=
  (cs.dropWhile isDigit).head? = some '-'

instance (cs : List Char) : Decidable (Hyphenated cs) :=
  inferInstanceAs (Decidable (_ = _))

-- The digits of a text that stand in the place of the year, and their sign: in front of a hyphen,
-- or else behind the second slash.
def yearGroup (cs : List Char) : List Char :=
  if Hyphenated cs then cs.takeWhile isDigit
  else yearDigits (Text.trimStart (behindSlash (behindSlash cs)))

theorem hyphenated_append_iff {ds : List Char} (hds : ∀ c ∈ ds, isDigit c = true)
    (hc : isDigit c = false) : Hyphenated (ds ++ c :: rest) ↔ c = '-' := by
  rw [Hyphenated, List.dropWhile_append_of_pos hds, List.dropWhile_cons_of_neg (by simp [hc]),
    List.head?_cons, Option.some_inj]

theorem yearGroup_of_hyphen {ds : List Char} (hds : ∀ c ∈ ds, isDigit c = true) :
    yearGroup (ds ++ '-' :: rest) = ds := by
  rw [yearGroup, if_pos ((hyphenated_append_iff hds (by decide)).2 rfl),
    takeWhile_of_stops hds (by simp; decide)]

theorem behindSlash_append {ds : List Char} (hds : '/' ∉ ds) :
    behindSlash (ds ++ '/' :: rest) = rest := by
  have hne : ∀ c ∈ ds, (decide (c ≠ '/')) = true := by
    intro c hc
    exact decide_eq_true (ne_of_mem_of_not_mem hc hds)
  rw [behindSlash, List.dropWhile_append_of_pos hne]
  rfl

theorem not_mem_of_digits {ds : List Char} (hds : ∀ c ∈ ds, isDigit c = true)
    (hc : isDigit c = false) : c ∉ ds :=
  fun h => by simp [hds c h] at hc

theorem yearGroup_of_slashes {day month : List Char} (hday : ∀ c ∈ day, isDigit c = true)
    (hmonth : '/' ∉ month) : yearGroup (day ++ '/' :: (month ++ '/' :: rest)) =
      yearDigits (Text.trimStart rest) := by
  have hhyphen : ¬ Hyphenated (day ++ '/' :: (month ++ '/' :: rest)) := by
    rw [hyphenated_append_iff hday (by decide)]
    decide
  have hslash : '/' ∉ day := not_mem_of_digits hday (by decide)
  rw [yearGroup, if_neg hhyphen, behindSlash_append hslash, behindSlash_append hmonth]

/-! ### What a form makes of the year -/

-- Texts that are tried begin with a digit.
def Begins (cs : List Char) : Prop :=
  ∃ c tail, cs = c :: tail ∧ isDigit c = true

theorem Begins.trimStart_eq (h : Begins cs) : Text.trimStart cs = cs := by
  obtain ⟨c, tail, rfl, hc⟩ := h
  exact Text.trimStart_cons tail (isBlank_of_isDigit hc)

theorem begins_of_isCandidate (h : isCandidate cs = true) : Begins cs := by
  cases cs with
  | nil => cases (Bool.and_eq_true_iff.1 h).2
  | cons c cs => exact ⟨c, cs, rfl, (Bool.and_eq_true_iff.1 h).2⟩

theorem Begins.readYear (h : Begins cs) {y : Int} (hy : readYear cs = .ok (y, rest)) :
    ∃ ds, Leads 4 ds rest ∧ cs = ds ++ rest ∧ y = ofDigits ds := by
  obtain ⟨c, tail, rfl, hc⟩ := h
  obtain ⟨_, _, he, -, -⟩ | ⟨_, _, he, -, -⟩ | ⟨-, n, hn, rfl⟩ := readYear_cases hy
  · cases he
    cases hc
  · cases he
    cases hc
  · obtain ⟨ds, hleads, hds, rfl⟩ := readNumber_eq_ok_iff.1 hn
    exact ⟨ds, hleads, hds, rfl⟩

-- In a form that begins with the year, one to four digits in front of a hyphen name it.
theorem exists_of_yearFirst (hcs : Begins cs) (hitems : .number .year ∉ items)
    (h : readParts (yearFirst ++ items) p cs = .ok q) :
    ∃ ds rest, cs = ds ++ '-' :: rest ∧ IsNumeral ds ∧ ds.length ≤ 4 ∧ q.year = ofDigits ds := by
  obtain ⟨p₁, cs₁, hyear, h⟩ := readParts_cons_eq_ok_iff.1 h
  obtain ⟨p₂, cs₂, hhyphen, h⟩ := readParts_cons_eq_ok_iff.1 h
  obtain ⟨rfl, rfl⟩ := readItem_literal_eq_ok_iff.1 hhyphen
  obtain ⟨y, hy, rfl⟩ := readItem_year_eq_ok_iff.1 hyear
  rw [hcs.trimStart_eq] at hy
  obtain ⟨ds, hleads, hds, rfl⟩ := hcs.readYear hy
  exact ⟨ds, cs₂, hds, hleads.numeral, hleads.length, year_of_readParts (by simpa using hitems) h⟩

-- In a form that begins with the day, the year is what the group behind the second slash names.
theorem names_of_dayFirst (hcs : Begins cs) (hitems : .number .year ∉ items)
    (h : readParts (dayFirst ++ items) p cs = .ok q) :
    ¬ Hyphenated cs ∧ Names (yearGroup cs) q.year := by
  obtain ⟨p₁, cs₁, hday, h⟩ := readParts_cons_eq_ok_iff.1 h
  obtain ⟨p₂, cs₂, hslash, h⟩ := readParts_cons_eq_ok_iff.1 h
  obtain ⟨p₃, cs₃, hmonth, h⟩ := readParts_cons_eq_ok_iff.1 h
  obtain ⟨p₄, cs₄, hslash', h⟩ := readParts_cons_eq_ok_iff.1 h
  obtain ⟨p₅, cs₅, hyear, h⟩ := readParts_cons_eq_ok_iff.1 h
  obtain ⟨rfl, rfl⟩ := readItem_literal_eq_ok_iff.1 hslash
  obtain ⟨rfl, rfl⟩ := readItem_literal_eq_ok_iff.1 hslash'
  obtain ⟨day, hleads, hday, -⟩ := (readItem_number_eq_ok_iff (by decide)).1 hday
  obtain ⟨month, hleads', hmonth, -⟩ := (readItem_number_eq_ok_iff (by decide)).1 hmonth
  obtain ⟨y, hy, rfl⟩ := readItem_year_eq_ok_iff.1 hyear
  rw [hcs.trimStart_eq] at hday
  -- The month may have blanks in front of it.
  obtain ⟨blanks, hblank, hcs₂⟩ :
      ∃ blanks, '/' ∉ blanks ∧ cs₂ = blanks ++ (month ++ '/' :: cs₄) := by
    refine ⟨cs₂.takeWhile Text.isBlank, fun hm => ?_, ?_⟩
    · have := List.mem_takeWhile_imp hm
      cases this
    · rw [← hmonth, Text.trimStart, List.takeWhile_append_dropWhile]
  have hslash : '/' ∉ blanks ++ month := by
    have hm : '/' ∉ month := not_mem_of_digits hleads'.numeral.digits (by decide)
    simp [hblank, hm]
  have hdigits := hleads.numeral.digits
  rw [hday, hcs₂, ← List.append_assoc, yearGroup_of_slashes hdigits hslash,
    hyphenated_append_iff hdigits (by decide), year_of_readParts hitems h]
  exact ⟨by decide, names_of_readYear hy⟩

-- What names the zone of a text has no hyphen, so that it has no say in what is in front of one.
theorem exists_of_spellZone {ds : List Char} (h : spellZone cs = ds ++ '-' :: rest) :
    ∃ rest', cs = ds ++ '-' :: rest' := by
  obtain hcs | ⟨stem, c, hcs, -, hspell⟩ := spellZone_cases cs
  · exact ⟨rest, hcs ▸ h⟩
  · have hzone : '-' ∉ ['+', '0', '0', ':', '0', '0'] := by decide
    rw [hspell] at h
    obtain ⟨tail, -, ht⟩ | ⟨tail, hstem, ht⟩ := List.append_eq_append_iff.1 h
    · exact absurd (ht ▸ List.mem_append_right _ (.head _)) hzone
    · cases tail with
      | nil => cases ht
      | cons x tail =>
        obtain ⟨rfl, -⟩ := List.cons_eq_cons.1 ht
        exact ⟨tail ++ [c], by rw [hcs, hstem, List.append_assoc]; rfl⟩

theorem Begins.spellZone (h : Begins cs) : Begins (spellZone cs) := by
  obtain hcs | ⟨stem, c, hcs, hc, hspell⟩ := spellZone_cases cs
  · rwa [hcs]
  · obtain ⟨a, tail, rfl, ha⟩ := h
    cases stem with
    | nil =>
      obtain ⟨rfl, -⟩ := List.cons_eq_cons.1 hcs
      rw [ha] at hc
      cases hc
    | cons b stem =>
      obtain ⟨rfl, -⟩ := List.cons_eq_cons.1 hcs
      exact ⟨a, _, hspell, ha⟩

-- The forms that begin with the day name no zone, and no form names the year twice.
theorem forms_cases : ∀ f ∈ forms, .number .year ∉ f.items.drop 5 ∧
    (f.items = yearFirst ++ f.items.drop 5 ∨
      f.items = dayFirst ++ f.items.drop 5 ∧ f.hasOffset = false) := by
  decide

theorem year_of_ofParts? {y : Int} {m n : Nat} (h : Date.ofParts? y m n = some d) : d.year = y := by
  unfold Date.ofParts? at h
  split at h
  case isTrue =>
    cases h
    rfl
  case isFalse => cases h

theorem Form.exists_of_read (h : f.read cs = some (d, t)) :
    ∃ q, readParts f.items {} (f.spelling cs) = .ok q ∧ d.year = q.year := by
  rw [Form.read_eq] at h
  obtain ⟨q, hq, h⟩ := Option.bind_eq_some_iff.1 h
  obtain ⟨d', hd, h⟩ := Option.bind_eq_some_iff.1 h
  refine ⟨q, fit_eq_some_iff.1 hq, ?_⟩
  split at h
  case isTrue =>
    cases h
    exact year_of_ofParts? hd
  case isFalse => cases h

-- The year that a form reads is what the group in the place of the year names.
theorem names_of_read (hf : f ∈ forms) (hcs : Begins cs) (h : f.read cs = some (d, t)) :
    Names (yearGroup cs) d.year ∧ (Hyphenated cs → (yearGroup cs).length ≤ 4) := by
  obtain ⟨q, hq, hyear⟩ := Form.exists_of_read h
  obtain ⟨hitems, hfirst | ⟨hfirst, hoffset⟩⟩ := forms_cases f hf
  · have hbegins : Begins (f.spelling cs) := by
      unfold Form.spelling
      split
      · exact hcs.spellZone
      · exact hcs
    rw [hfirst] at hq
    obtain ⟨ds, rest, hds, hnumeral, hlength, hvalue⟩ := exists_of_yearFirst hbegins hitems hq
    obtain ⟨rest', rfl⟩ : ∃ rest', cs = ds ++ '-' :: rest' := by
      unfold Form.spelling at hds
      split at hds
      · exact exists_of_spellZone hds
      · exact ⟨rest, hds⟩
    have hnames := Names.digits hnumeral
    rw [List.take_of_length_le hlength] at hnames
    rw [yearGroup_of_hyphen hnumeral.digits, hyear, hvalue]
    exact ⟨hnames, fun _ => hlength⟩
  · rw [hfirst, Form.spelling, hoffset, if_neg Bool.false_ne_true] at hq
    obtain ⟨hhyphen, hnames⟩ := names_of_dayFirst hcs hitems hq
    exact ⟨hyear ▸ hnames, fun h => absurd h hhyphen⟩

/-! ### The displayed year -/

-- The year is the third word of a display, up to a comma.
def shownYear (shown : List Char) : List Char :=
  ((Text.words shown).getD 2 []).takeWhile (· ≠ ',')

theorem mem_yearChars {y : Int} (h : c ∈ yearChars y) : isDigit c = true ∨ c = '-' ∨ c = '+' := by
  unfold yearChars at h
  split at h
  case isTrue => exact .inl <| (isNumeral_padded _ _).digits c h
  case isFalse =>
    obtain rfl | h := List.mem_cons.1 h
    · split
      · exact .inr (.inl rfl)
      · exact .inr (.inr rfl)
    · exact .inl <| (isNumeral_padded _ _).digits c h

theorem yearChars_ne_nil (y : Int) : yearChars y ≠ [] := by
  unfold yearChars
  split
  · exact (isNumeral_padded _ _).ne_nil
  · exact List.cons_ne_nil _ _

theorem isWord_of_mem_monthNames {name : String} (h : name ∈ monthNames) :
    Text.IsWord name.toList := by
  have hall : (monthNames.all fun name =>
      !name.toList.isEmpty && name.toList.all (!Text.isBlank ·)) = true := by
    decide +kernel
  have hname := List.all_eq_true.1 hall name h
  simpa [Text.IsWord] using hname

theorem isWord_monthName {month : Nat} (h : 1 ≤ month ∧ month ≤ 12) :
    Text.IsWord (monthName month).toList := by
  have hlt : month - 1 < monthNames.length := by
    change month - 1 < 12
    omega
  rw [monthName, List.getD_eq_getElem?_getD, List.getElem?_eq_getElem hlt, Option.getD_some]
  exact isWord_of_mem_monthNames (List.getElem_mem hlt)

-- A date is three words, of which the last goes on with what follows it at once.
theorem words_longChars (d : Date) {tail : List Char} (htail : ∀ c ∈ tail, Text.isBlank c = false) :
    Text.words (d.longChars ++ tail) =
      [digitsOf d.day, (monthName d.month).toList, yearChars d.year ++ tail] := by
  have hyear : Text.IsWord (yearChars d.year ++ tail) := by
    refine ⟨by simp [yearChars_ne_nil], fun c hc => ?_⟩
    obtain hc | hc := List.mem_append.1 hc
    · obtain hdigit | rfl | rfl := mem_yearChars hc
      · exact isBlank_of_isDigit hdigit
      · rfl
      · rfl
    · exact htail c hc
  have hday : Text.IsWord (digitsOf d.day) :=
    ⟨digitsOf_ne_nil _, fun c hc => isBlank_of_isDigit (isDigit_of_mem_digitsOf hc)⟩
  have hlong : d.longChars ++ tail = digitsOf d.day ++
      ' ' :: ((monthName d.month).toList ++ ' ' :: (yearChars d.year ++ tail)) := by
    simp [Date.longChars]
  rw [hlong, Text.words_append_cons _ _ (by decide), Text.words_append_cons _ _ (by decide),
    hday.words_eq, (isWord_monthName d.month_range).words_eq, hyear.words_eq]
  rfl

theorem shownYear_longChars (d : Date) {tail rest : List Char} (htail : tail = [] ∨ tail = [','])
    (hrest : rest = [] ∨ ∃ rest', rest = ' ' :: rest') :
    shownYear (d.longChars ++ tail ++ rest) = yearChars d.year := by
  have hblank : ∀ c ∈ tail, Text.isBlank c = false := by
    obtain rfl | rfl := htail
    · exact List.forall_mem_nil _
    · exact List.forall_mem_singleton.2 (by decide)
  have hwords : ∃ ws, Text.words (d.longChars ++ tail ++ rest) =
      digitsOf d.day :: (monthName d.month).toList :: (yearChars d.year ++ tail) :: ws := by
    obtain rfl | ⟨rest', rfl⟩ := hrest
    · exact ⟨[], by rw [List.append_nil, words_longChars d hblank]⟩
    · exact ⟨_, by rw [Text.words_append_cons _ _ (by decide), words_longChars d hblank]; rfl⟩
  obtain ⟨ws, hws⟩ := hwords
  have hcomma : ∀ c ∈ yearChars d.year, (decide (c ≠ ',')) = true := by
    intro c hc
    refine decide_eq_true ?_
    rintro rfl
    obtain h | h | h := mem_yearChars hc <;> cases h
  simp only [shownYear, hws, List.getD_cons_succ, List.getD_cons_zero]
  rw [List.takeWhile_append_of_pos hcomma]
  obtain rfl | rfl := htail <;> simp

theorem shownYear_display (precision : Precision) (d : Date) (t : TimeOfDay) :
    shownYear (display precision d t) = yearChars d.year := by
  cases precision with
  | date => simpa [display] using shownYear_longChars d (.inl rfl) (.inl rfl)
  | minutes => simpa [display] using shownYear_longChars d (.inr rfl) (.inr ⟨t.chars false, rfl⟩)
  | seconds => simpa [display] using shownYear_longChars d (.inr rfl) (.inr ⟨t.chars true, rfl⟩)

structure FourDigits (group : List Char) : Prop where
  length : group.length = 4
  digits : ∀ c ∈ group, isDigit c = true

theorem FourDigits.yearChars_eq {group : List Char} {y : Int} (h : FourDigits group)
    (hy : Names group y) : yearChars y = group := by
  cases hy with
  | digits hnumeral =>
    have hpadded := padded_ofDigits hnumeral
    have hlt := ofDigits_lt h.digits
    rw [h.length] at hpadded hlt
    rw [List.take_of_length_le h.length.le, yearChars, if_pos (by simp; omega), Int.natAbs_natCast,
      hpadded]
  | plus => cases h.digits '+' (.head _)
  | minus => cases h.digits '-' (.head _)

-- A text states the year that it is displayed with, in four digits in the place of the year.
structure StatesYear (cs shown : List Char) : Prop where
  four : FourDigits (yearGroup cs)
  eq   : yearGroup cs = shownYear shown

-- The displayed year is the one that the digits in the place of the year name. The text states it
-- if these are four without a sign, and only then: fewer are taken for the years of antiquity, of
-- more the first four count unless they have a sign, and only behind slashes can there be more.
theorem statesYear_iff {text shown : String} (h : reformat? text = some shown) :
    (∃ y, Names (yearGroup (Text.trim text.toList)) y ∧ shownYear shown.toList = yearChars y) ∧
      (Hyphenated (Text.trim text.toList) → (yearGroup (Text.trim text.toList)).length ≤ 4) ∧
      (StatesYear (Text.trim text.toList) shown.toList ↔
        FourDigits (yearGroup (Text.trim text.toList))) := by
  obtain ⟨hcandidate, f, hf, d, t, hread, rfl⟩ := exists_read_of_reformat? h
  obtain ⟨hnames, hlength⟩ := names_of_read hf (begins_of_isCandidate hcandidate) hread
  have hshown : shownYear (String.ofList (display f.precision d t)).toList = yearChars d.year := by
    rw [String.toList_ofList, shownYear_display]
  refine ⟨⟨d.year, hnames, hshown⟩, hlength, fun hstates => hstates.four, fun hfour => ⟨hfour, ?_⟩⟩
  rw [hshown, hfour.yearChars_eq hnames]

-- Two digits are taken for a year of antiquity.
theorem statesYear_iff_slashes :
    reformat? "10/10/24" = some "10 October 0024" ∧
      ((∃ y, Names (yearGroup (Text.trim "10/10/24".toList)) y ∧
          shownYear "10 October 0024".toList = yearChars y) ∧
        (Hyphenated (Text.trim "10/10/24".toList) →
          (yearGroup (Text.trim "10/10/24".toList)).length ≤ 4) ∧
        (StatesYear (Text.trim "10/10/24".toList) "10 October 0024".toList ↔
          FourDigits (yearGroup (Text.trim "10/10/24".toList)))) ∧
      ¬ StatesYear (Text.trim "10/10/24".toList) "10 October 0024".toList := by
  have hread : reformat? "10/10/24" = some "10 October 0024" := by decide +kernel
  have hgroup : yearGroup (Text.trim "10/10/24".toList) = ['2', '4'] := by decide +kernel
  refine ⟨hread, statesYear_iff hread, fun h => ?_⟩
  have hlength := h.four.length
  rw [hgroup] at hlength
  cases hlength

end DateText
end AccessReport
