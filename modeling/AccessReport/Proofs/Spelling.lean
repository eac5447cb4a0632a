import AccessReport.Proofs.Reading

namespace AccessReport

open Decimal

/-! ### Dates and times as they are written -/

namespace Calendar

def Date.yearFirst (d : Date) : List Char :=
  padded 4 d.year.natAbs ++ '-' :: (padded 2 d.month ++ '-' :: padded 2 d.day)

def Date.dayFirst (d : Date) : List Char :=
  padded 2 d.day ++ '/' :: (padded 2 d.month ++ '/' :: padded 4 d.year.natAbs)

-- Hour and minute of a day of 24 hours.
def TimeOfDay.clock (t : TimeOfDay) : List Char :=
  padded 2 t.hour ++ ':' :: padded 2 t.minute

-- Times that a clock shows.
structure TimeOfDay.Valid (t : TimeOfDay) : Prop where
  hour   : t.hour < 24
  minute : t.minute < 60
  second : t.second < 60

-- The years that four digits name.
def Date.InRange (d : Date) : Prop :=
  0 ≤ d.year ∧ d.year ≤ 9999

variable {d : Date} {t : TimeOfDay} {p : Parts} {items : List Item} {cs : List Char}

theorem length_padded_date (d : Date) :
    4 ≤ (padded 4 d.year.natAbs).length ∧ 2 ≤ (padded 2 d.month).length ∧
      2 ≤ (padded 2 d.day).length :=
  ⟨le_length_padded .., le_length_padded .., le_length_padded ..⟩

theorem le_length_yearFirst (d : Date) : 8 ≤ d.yearFirst.length := by
  have := length_padded_date d
  simp only [Date.yearFirst, List.length_append, List.length_cons]
  omega

theorem le_length_dayFirst (d : Date) : 8 ≤ d.dayFirst.length := by
  have := length_padded_date d
  simp only [Date.dayFirst, List.length_append, List.length_cons]
  omega

def Parts.setDate (p : Parts) (d : Date) : Parts :=
  { p with year := d.year, month := d.month, day := d.day }

def Parts.setClock (p : Parts) (t : TimeOfDay) : Parts :=
  { p with hour := t.hour, minute := t.minute }

def Parts.setSecond (p : Parts) (t : TimeOfDay) : Parts :=
  { p with second := t.second }

theorem fit_year_of_date (hd : d.InRange) :
    fit (.number .year :: items) p (padded 4 d.year.natAbs ++ cs) =
      fit items { p with year := d.year } cs := by
  obtain ⟨hlow, hhigh⟩ := hd
  rw [fit_year (by omega), Int.natAbs_of_nonneg hlow]

theorem fit_month (d : Date) : fit (.number .month :: items) p (padded 2 d.month ++ cs) =
    fit items { p with month := d.month } cs := by
  have hm := d.month_range
  exact fit_number (by decide) (by omega) hm.1 hm.2

theorem fit_day (d : Date) : fit (.number .day :: items) p (padded 2 d.day ++ cs) =
    fit items { p with day := d.day } cs := by
  have hd := d.day_range
  exact fit_number (by decide) (by omega) hd.1 hd.2

theorem fit_yearFirst (hd : d.InRange) :
    fit (DateText.yearFirst ++ items) p (d.yearFirst ++ cs) = fit items (p.setDate d) cs := by
  simp only [DateText.yearFirst, Date.yearFirst, List.append_assoc, List.cons_append,
    List.nil_append]
  rw [fit_year_of_date hd, fit_literal, fit_month, fit_literal, fit_day]
  rfl

theorem fit_dayFirst (hd : d.InRange) :
    fit (DateText.dayFirst ++ items) p (d.dayFirst ++ cs) = fit items (p.setDate d) cs := by
  simp only [DateText.dayFirst, Date.dayFirst, List.append_assoc, List.cons_append,
    List.nil_append]
  rw [fit_day, fit_literal, fit_month, fit_literal, fit_year_of_date hd]
  rfl

-- No year is read from a day, since no hyphen follows.
theorem fit_yearFirst_dayFirst (d : Date) (cs : List Char) :
    fit (DateText.yearFirst ++ items) p (d.dayFirst ++ cs) = none := by
  have hday := d.day_range
  have hlength : (padded 2 d.day).length = 2 := length_padded (by decide) (by omega)
  have hleads (rest : List Char) : Leads 4 (padded 2 d.day) ('/' :: rest) :=
    ⟨isNumeral_padded 2 d.day, by omega, .inr (by simp; decide)⟩
  simp only [DateText.yearFirst, Date.dayFirst, List.append_assoc, List.cons_append,
    List.nil_append]
  rw [fit_of_readItem (readItem_year_eq_ok_iff.2
    ⟨_, (trimStart_padded 2 d.day _).symm ▸ readYear_of_leads (hleads _), rfl⟩),
    fit_literal_of_ne (by decide)]

-- No day is read from a year, since there are more digits in front of the first other character.
theorem fit_dayFirst_yearFirst (d : Date) (cs : List Char) :
    fit (DateText.dayFirst ++ items) p (d.yearFirst ++ cs) = none := by
  rw [Option.eq_none_iff_forall_ne_some]
  intro q hq
  obtain ⟨p₁, rest, hday, h⟩ := readParts_cons_eq_ok_iff.1 (fit_eq_some_iff.1 hq)
  obtain ⟨p₂, rest', hslash, -⟩ := readParts_cons_eq_ok_iff.1 h
  obtain ⟨-, rfl⟩ := readItem_literal_eq_ok_iff.1 hslash
  obtain ⟨ds, hleads, hds, -⟩ := (readItem_number_eq_ok_iff (by decide)).1 hday
  rw [Date.yearFirst, List.append_assoc, trimStart_padded] at hds
  have hyear := congrArg (List.takeWhile isDigit) hds
  rw [takeWhile_of_stops hleads.numeral.digits (by simp; decide), List.cons_append,
    takeWhile_of_stops (isNumeral_padded _ _).digits (by simp; decide)] at hyear
  have hlong := le_length_padded 4 d.year.natAbs
  rw [hyear] at hlong
  have hshort : ds.length ≤ 2 := hleads.length
  omega

theorem fit_minutes (ht : t.Valid) : fit (DateText.minutes ++ items) p (t.clock ++ cs) =
    fit items (p.setClock t) cs := by
  have hh := ht.hour
  have hm := ht.minute
  simp only [DateText.minutes, TimeOfDay.clock, List.append_assoc, List.cons_append,
    List.nil_append]
  rw [fit_number (by decide) (by omega) (Nat.zero_le _) (Nat.le_of_lt_succ hh), fit_literal,
    fit_number (by decide) (by omega) (Nat.zero_le _) (Nat.le_of_lt_succ hm)]
  rfl

theorem fit_second (ht : t.Valid) :
    fit ([.literal ':', .number .second] ++ items) p (':' :: padded 2 t.second ++ cs) =
      fit items (p.setSecond t) cs := by
  have hs := ht.second
  simp only [List.cons_append, List.nil_append]
  rw [fit_literal, fit_number (by decide) (by omega) (Nat.zero_le _) (Nat.le_of_lt hs)]
  rfl

end Calendar

namespace DateText

open Calendar

variable {d : Date} {t : TimeOfDay} {p p' q : Parts} {fs : List Form} {f : Form}
  {front : List Item} {text cs zs : List Char}

/-! ### The first form that fits -/

-- What the first of some forms shows that fits the rest of a text; those with a zone get another
-- spelling of the rest.
def search (fs : List Form) (p : Parts) (cs zs : List Char) : Option (List Char) :=
  fs.findSome? fun f => (fit f.items p (if f.hasOffset then zs else cs)).bind fun q =>
    q.moment?.map fun x => display f.precision x.1 x.2

theorem search_cons_of_none (h : fit f.items p (if f.hasOffset then zs else cs) = none) :
    search (f :: fs) p cs zs = search fs p cs zs := by
  rw [search, List.findSome?_cons, h]
  rfl

theorem search_cons_of_some (h : fit f.items p (if f.hasOffset then zs else cs) = some q)
    (hq : q.moment? = some (d, t)) :
    search (f :: fs) p cs zs = some (display f.precision d t) := by
  rw [search, List.findSome?_cons, h, Option.bind_some, hq]
  rfl

-- What is left of the forms that begin with some items.
def behind (front : List Item) (fs : List Form) : List Form :=
  fs.filterMap fun f =>
    if front <+: f.items then some { f with items := f.items.drop front.length } else none

-- Behind a text that some forms read in the same way and that the others cannot begin with, the
-- search goes on among the first.
theorem search_append (hfront : ∀ items cs, fit (front ++ items) p (text ++ cs) = fit items p' cs)
    (hother : ∀ f ∈ fs, ¬ front <+: f.items → ∀ cs, fit f.items p (text ++ cs) = none)
    (cs zs : List Char) :
    search fs p (text ++ cs) (text ++ zs) = search (behind front fs) p' cs zs := by
  induction fs with
  | nil => rfl
  | cons f fs ih =>
    have ih := ih fun g hg => hother g (.tail _ hg)
    by_cases h : front <+: f.items
    · have hitems : f.items = front ++ f.items.drop front.length := by
        obtain ⟨items, hitems⟩ := h
        rw [← hitems, List.drop_left]
      have hb : behind front (f :: fs) =
          { f with items := f.items.drop front.length } :: behind front fs :=
        List.filterMap_cons_some (if_pos h)
      have hfit : fit f.items p (if f.hasOffset then text ++ zs else text ++ cs) =
          fit (f.items.drop front.length) p' (if f.hasOffset then zs else cs) := by
        rw [← hfront, ← hitems]
        split <;> rfl
      rw [hb, search, List.findSome?_cons, hfit, search, List.findSome?_cons]
      unfold search at ih
      rw [ih]
    · have hb : behind front (f :: fs) = behind front fs := List.filterMap_cons_none (if_neg h)
      have hf := hother f (.head _) h
      rw [hb, ← ih]
      refine search_cons_of_none ?_
      split <;> exact hf _

theorem search_yearFirst (hd : d.InRange) (cs zs : List Char) :
    search forms p (d.yearFirst ++ cs) (d.yearFirst ++ zs) =
      search (behind yearFirst forms) (p.setDate d) cs zs := by
  refine search_append (fun _ _ => fit_yearFirst hd) (fun f hf hne cs => ?_) cs zs
  obtain ⟨items, hitems⟩ := (forms_begin f hf).resolve_left hne
  exact hitems ▸ fit_dayFirst_yearFirst d cs

theorem search_dayFirst (hd : d.InRange) (cs zs : List Char) :
    search forms p (d.dayFirst ++ cs) (d.dayFirst ++ zs) =
      search (behind dayFirst forms) (p.setDate d) cs zs := by
  refine search_append (fun _ _ => fit_dayFirst hd) (fun f hf hne cs => ?_) cs zs
  obtain ⟨items, hitems⟩ := (forms_begin f hf).resolve_right hne
  exact hitems ▸ fit_yearFirst_dayFirst d cs

-- The two ways in which a time begins.
def lettered : List Item := .literal 'T' :: minutes
def spaced : List Item := .blanks :: minutes

theorem behind_yearFirst_begin : ∀ f ∈ behind yearFirst forms,
    f.items = [] ∨ lettered <+: f.items ∨ spaced <+: f.items := by
  decide

theorem behind_dayFirst_begin : ∀ f ∈ behind dayFirst forms,
    f.items = [] ∨ lettered <+: f.items ∨ spaced <+: f.items := by
  decide

theorem fit_lettered (ht : t.Valid) (items : List Item) (p : Parts) (cs : List Char) :
    fit (lettered ++ items) p ('T' :: t.clock ++ cs) = fit items (p.setClock t) cs :=
  fit_literal.trans (fit_minutes ht)

theorem fit_spaced (ht : t.Valid) (items : List Item) (p : Parts) (cs : List Char) :
    fit (spaced ++ items) p (' ' :: t.clock ++ cs) = fit items (p.setClock t) cs := by
  have htrim : Text.trimStart (' ' :: t.clock ++ cs) = t.clock ++ cs := by
    rw [List.cons_append, Text.trimStart_cons_of_blank _ (by decide), TimeOfDay.clock,
      List.append_assoc, trimStart_padded]
  rw [spaced, List.cons_append, fit_blanks, htrim, fit_minutes ht]

theorem fit_lettered_space (items : List Item) (p : Parts) (cs : List Char) :
    fit (lettered ++ items) p (' ' :: cs) = none :=
  fit_literal_of_ne (by decide)

theorem fit_spaced_letter (items : List Item) (p : Parts) (cs : List Char) :
    fit (spaced ++ items) p ('T' :: cs) = none := by
  rw [spaced, List.cons_append, fit_blanks, Text.trimStart_cons cs (by decide)]
  exact fit_number_of_not_digit (by decide) (by decide) (by decide)

-- How a time begins decides among the forms with a time.
theorem search_lettered (ht : t.Valid) (cs zs : List Char) :
    search (behind yearFirst forms) p ('T' :: t.clock ++ cs) ('T' :: t.clock ++ zs) =
      search (behind lettered (behind yearFirst forms)) (p.setClock t) cs zs := by
  refine search_append (fun items => fit_lettered ht items p) (fun f hf hne cs => ?_) cs zs
  obtain hnil | hletter | ⟨items, hitems⟩ := behind_yearFirst_begin f hf
  · exact hnil ▸ fit_trailing p 'T' _
  · exact absurd hletter hne
  · exact hitems ▸ fit_spaced_letter items p _

theorem search_spaced {fs : List Form} (ht : t.Valid)
    (hfs : ∀ f ∈ fs, f.items = [] ∨ lettered <+: f.items ∨ spaced <+: f.items)
    (cs zs : List Char) : search fs p (' ' :: t.clock ++ cs) (' ' :: t.clock ++ zs) =
      search (behind spaced fs) (p.setClock t) cs zs := by
  refine search_append (fun items => fit_spaced ht items p) (fun f hf hne cs => ?_) cs zs
  obtain hnil | ⟨items, hitems⟩ | hspace := hfs f hf
  · exact hnil ▸ fit_trailing p ' ' _
  · exact hitems ▸ fit_lettered_space items p _
  · exact absurd hspace hne

def onSeconds : List Item := [.literal ':', .number .second]

-- Behind minutes there are seconds, nothing, or a zone.
theorem search_onSeconds {fs : List Form} (ht : t.Valid)
    (hfs : ∀ f ∈ fs, onSeconds <+: f.items ∨ f.items = [] ∨ f.items = [.offset])
    (cs zs : List Char) :
    search fs p (':' :: padded 2 t.second ++ cs) (':' :: padded 2 t.second ++ zs) =
      search (behind onSeconds fs) (p.setSecond t) cs zs := by
  refine search_append (fun _ _ => fit_second ht) (fun f hf hne cs => ?_) cs zs
  obtain hseconds | hnil | hoffset := hfs f hf
  · exact absurd hseconds hne
  · exact hnil ▸ fit_trailing p ':' _
  · exact hoffset ▸ fit_offset_of_not_sign (by decide) (by decide)

/-! ### Zones -/

variable {zone : List Char}

theorem spellZone_append (hzone : zone ≠ []) (front : List Char) :
    spellZone (front ++ zone) = front ++ spellZone zone := by
  obtain rfl | ⟨stem, c, rfl⟩ := List.eq_nil_or_concat' zone
  · exact absurd rfl hzone
  · rw [← List.append_assoc]
    simp only [spellZone, List.reverse_concat, List.reverse_reverse]
    split <;> simp

-- A text that ends in a number names no zone by a letter.
theorem spellZone_append_numeral {ds : List Char} (front : List Char) (hds : IsNumeral ds) :
    spellZone (front ++ ds) = front ++ ds := by
  refine (spellZone_cases _).resolve_right ?_
  rintro ⟨stem, c, he, hc, -⟩
  obtain rfl | ⟨ds, e, rfl⟩ := List.eq_nil_or_concat' ds
  · exact hds.ne_nil rfl
  · rw [← List.append_assoc] at he
    obtain ⟨-, he⟩ := List.append_inj' he rfl
    cases he
    simp [hds.digits c (by simp)] at hc

-- A name of a zone: the letter Z, or what its clocks are ahead or behind.
inductive Zone : List Char → Prop
  | upper : Zone ['Z']
  | lower : Zone ['z']
  | offset {sign : Char} {hours minutes : Nat} (hsign : sign = '+' ∨ sign = '-')
      (hhours : hours < 24) (hminutes : minutes < 60) :
      Zone (sign :: (padded 2 hours ++ ':' :: padded 2 minutes))

-- A fraction of a second, or nothing.
inductive Fraction : List Char → Prop
  | none : Fraction []
  | point {ds : List Char} (h : IsNumeral ds) : Fraction ('.' :: ds)

variable {fraction : List Char}

theorem Zone.spelled_offset {sign : Char} {hours minutes : Nat} :
    spellZone (sign :: (padded 2 hours ++ ':' :: padded 2 minutes)) =
      sign :: (padded 2 hours ++ ':' :: padded 2 minutes) := by
  have h := spellZone_append_numeral (sign :: (padded 2 hours ++ [':']))
    (isNumeral_padded 2 minutes)
  simpa using h

-- The text of a zone, and how it is spelled, is nothing else that may follow on a time.
theorem Zone.exists_cons (h : Zone zone) :
    (∃ c rest, zone = c :: rest ∧ c ≠ ':' ∧ c ≠ '.' ∧ isDigit c = false) ∧
      ∃ c rest, spellZone zone = c :: rest ∧ c ≠ ':' ∧ c ≠ '.' ∧ isDigit c = false := by
  cases h with
  | upper => exact ⟨⟨'Z', [], rfl, by decide⟩, '+', _, rfl, by decide⟩
  | lower => exact ⟨⟨'z', [], rfl, by decide⟩, '+', _, rfl, by decide⟩
  | @offset sign hours minutes hsign =>
    have hc : sign ≠ ':' ∧ sign ≠ '.' ∧ isDigit sign = false := by
      obtain rfl | rfl := hsign <;> decide
    exact ⟨⟨sign, _, rfl, hc⟩, sign, _, Zone.spelled_offset, hc⟩

-- A zone changes nothing but the offset, and that by less than a day.
theorem Zone.exists_fit (h : Zone zone) : ∃ offset : Int, offset.natAbs < 24 * 60 ∧
    ∀ p, fit [.offset] p (spellZone zone) = some { p with offset } := by
  cases h with
  | upper => exact ⟨0, by decide, fun p => rfl⟩
  | lower => exact ⟨0, by decide, fun p => rfl⟩
  | offset hsign hhours hminutes =>
    obtain ⟨offset, hlt, hfit⟩ := fit_offset hsign hhours hminutes [] []
    refine ⟨offset, hlt, fun p => ?_⟩
    have hfit := hfit p
    rw [List.append_nil] at hfit
    rw [Zone.spelled_offset, hfit, fit_nil]

/-! ### What the first form that fits tells -/

-- What was read tells a day and a time.
structure Tells (p : Parts) (d : Date) (t : TimeOfDay) : Prop where
  date   : Date.ofParts? p.year p.month p.day = some d
  time   : p.time = t
  offset : p.offset.natAbs < 24 * 60

theorem Tells.moment?_eq (h : Tells p d t) : p.moment? = some (d, t) := by
  rw [Parts.moment?, h.date, Option.bind_some, Parts.hasOffset, if_pos (decide_eq_true h.offset),
    h.time]

theorem Tells.shift (h : Tells p d t) {offset : Int} (ho : offset.natAbs < 24 * 60) :
    Tells { p with offset } d t :=
  ⟨h.date, h.time, ho⟩

-- What may follow on the seconds of a time.
def afterSeconds : List Form := [
  ⟨[], false, .seconds⟩,
  ⟨[.fraction], false, .seconds⟩,
  ⟨[.offset], true, .seconds⟩,
  ⟨[.fraction, .offset], true, .seconds⟩]

theorem search_afterSeconds (hp : Tells p d t) (hf : Fraction fraction)
    (hz : zone = [] ∨ Zone zone) :
    search afterSeconds p (fraction ++ zone) (fraction ++ spellZone zone) =
      some (display .seconds d t) := by
  unfold afterSeconds
  cases hf with
  | none =>
    rw [List.nil_append, List.nil_append]
    obtain rfl | hz := hz
    · exact search_cons_of_some (fit_nil p) hp.moment?_eq
    · obtain ⟨offset, hlt, hfit⟩ := hz.exists_fit
      obtain ⟨⟨c, rest, rfl, -, hc, -⟩, -⟩ := hz.exists_cons
      have hpoint : fit [.fraction] p (c :: rest) = none := by
        rw [fit_without_fraction (by simpa using hc), fit_trailing]
      rw [search_cons_of_none (fit_trailing p c rest), search_cons_of_none hpoint]
      exact search_cons_of_some (hfit p) (hp.shift hlt).moment?_eq
  | @point ds hds =>
    have hpoint (zs : List Char) : fit [] p ('.' :: ds ++ zs) = none := fit_trailing p '.' _
    rw [search_cons_of_none (hpoint zone)]
    obtain rfl | hz := hz
    · exact search_cons_of_some (fit_fraction hds (by simp)) hp.moment?_eq
    · obtain ⟨offset, hlt, hfit⟩ := hz.exists_fit
      obtain ⟨⟨c, rest, hzone, -, -, hc⟩, c', rest', hspell, -, -, hc'⟩ := hz.exists_cons
      have hfraction : fit [.fraction] p ('.' :: ds ++ zone) = none := by
        rw [hzone, List.cons_append, fit_fraction hds (by simpa using hc), fit_trailing]
      have hoffset : fit [.offset] p ('.' :: ds ++ spellZone zone) = none :=
        fit_offset_of_not_sign (by decide) (by decide)
      have hboth : fit [.fraction, .offset] p ('.' :: ds ++ spellZone zone) =
          some { p with offset } := by
        rw [List.cons_append, fit_fraction hds (by simpa [hspell] using hc'), hfit]
      rw [search_cons_of_none hfraction, search_cons_of_none hoffset]
      exact search_cons_of_some hboth (hp.shift hlt).moment?_eq

-- Without seconds, the forms that ask for them are passed over.
theorem search_minutes (fs : List Form) {fs' : List Form} (hfs : ∀ f ∈ fs, onSeconds <+: f.items)
    (hp : Tells p d { t with second := 0 }) :
    search (fs ++ ⟨[], false, .minutes⟩ :: fs') p [] [] = some (display .minutes d t) := by
  change _ = some (display .minutes d { t with second := 0 })
  induction fs with
  | nil => exact search_cons_of_some (fit_nil p) hp.moment?_eq
  | cons f fs ih =>
    obtain ⟨items, hitems⟩ := hfs f (.head _)
    have hnone : fit f.items p (if f.hasOffset then [] else []) = none := by
      rw [ite_self, ← hitems]
      exact fit_literal_nil
    rw [List.cons_append, search_cons_of_none hnone]
    exact ih fun f hf => hfs f (.tail _ hf)

-- What may follow on the minutes of a time that begins with a letter.
def afterMinutes : List Form := [
  ⟨onSeconds, false, .seconds⟩,
  ⟨onSeconds ++ [.fraction], false, .seconds⟩,
  ⟨[], false, .minutes⟩,
  ⟨onSeconds ++ [.offset], true, .seconds⟩,
  ⟨onSeconds ++ [.fraction, .offset], true, .seconds⟩,
  ⟨[.offset], true, .minutes⟩]

-- Without seconds no form fits that asks for them.
theorem fit_onSeconds_of_ne {c : Char} (hc : c ≠ ':') (items : List Item) (p : Parts)
    (cs : List Char) : fit (onSeconds ++ items) p (c :: cs) = none :=
  fit_literal_of_ne hc

theorem search_afterMinutes (hp : Tells p d { t with second := 0 })
    (hz : zone = [] ∨ Zone zone) :
    search afterMinutes p zone (spellZone zone) = some (display .minutes d t) := by
  obtain rfl | hz := hz
  · exact search_minutes [⟨onSeconds, false, .seconds⟩, ⟨onSeconds ++ [.fraction], false, .seconds⟩]
      (by decide) hp
  · change _ = some (display .minutes d { t with second := 0 })
    obtain ⟨offset, hlt, hfit⟩ := hz.exists_fit
    obtain ⟨⟨c, rest, rfl, hc, -, -⟩, c', rest', hspell, hc', -, -⟩ := hz.exists_cons
    rw [hspell] at hfit ⊢
    rw [afterMinutes, search_cons_of_none (fit_onSeconds_of_ne hc [] p rest),
      search_cons_of_none (fit_onSeconds_of_ne hc [.fraction] p rest),
      search_cons_of_none (fit_trailing p c rest),
      search_cons_of_none (fit_onSeconds_of_ne hc' [.offset] p rest'),
      search_cons_of_none (fit_onSeconds_of_ne hc' [.fraction, .offset] p rest')]
    exact search_cons_of_some (hfit p) (hp.shift hlt).moment?_eq

theorem behind_lettered : behind lettered (behind yearFirst forms) = afterMinutes := by
  rfl

theorem behind_onSeconds :
    behind onSeconds (behind lettered (behind yearFirst forms)) = afterSeconds ∧
      behind onSeconds (behind spaced (behind yearFirst forms)) = afterSeconds ∧
      behind onSeconds (behind spaced (behind dayFirst forms)) = [⟨[], false, .seconds⟩] :=
  ⟨rfl, rfl, rfl⟩

/-! ### Both ends of a text -/

-- A text ends in a number with a zone behind it; the other text is the same with its zone spelled
-- out.
def Closes (zone cs zs : List Char) : Prop :=
  ∃ front ds, IsNumeral ds ∧ cs = front ++ (ds ++ zone) ∧ zs = front ++ (ds ++ spellZone zone)

theorem closes_numeral {ds : List Char} (hds : IsNumeral ds) (zone : List Char) :
    Closes zone (ds ++ zone) (ds ++ spellZone zone) :=
  ⟨[], ds, hds, rfl, rfl⟩

theorem Closes.append (h : Closes zone cs zs) (text : List Char) :
    Closes zone (text ++ cs) (text ++ zs) := by
  obtain ⟨front, ds, hds, rfl, rfl⟩ := h
  exact ⟨text ++ front, ds, hds, by simp, by simp⟩

theorem closes_fraction {ds : List Char} (hds : IsNumeral ds) (hf : Fraction fraction)
    (zone : List Char) :
    Closes zone (ds ++ (fraction ++ zone)) (ds ++ (fraction ++ spellZone zone)) := by
  cases hf with
  | none => exact closes_numeral hds zone
  | point hpoint => exact ((closes_numeral hpoint zone).append ['.']).append ds

theorem Closes.spellZone_eq (h : Closes zone cs zs) (hz : zone = [] ∨ Zone zone) :
    spellZone cs = zs := by
  obtain ⟨front, ds, hds, rfl, rfl⟩ := h
  obtain rfl | hz := hz
  · have hspell : spellZone [] = [] := rfl
    rw [hspell, List.append_nil, spellZone_append_numeral front hds]
  · obtain ⟨⟨c, rest, rfl, -⟩, -⟩ := hz.exists_cons
    rw [← List.append_assoc, spellZone_append (List.cons_ne_nil c rest), List.append_assoc]

theorem exists_last_numeral {ds : List Char} (hds : IsNumeral ds) (front : List Char) :
    ∃ z, [z] <:+ front ++ ds ∧ Text.isBlank z = false := by
  obtain rfl | ⟨ds, z, rfl⟩ := List.eq_nil_or_concat' ds
  · exact absurd rfl hds.ne_nil
  · refine ⟨z, ⟨front ++ ds, by simp⟩, isBlank_of_isDigit (hds.digits z (by simp))⟩

theorem Closes.exists_last (h : Closes zone cs zs) (hz : zone = [] ∨ Zone zone) :
    ∃ z, [z] <:+ cs ∧ Text.isBlank z = false := by
  obtain ⟨front, ds, hds, rfl, -⟩ := h
  obtain rfl | hz := hz
  · rw [List.append_nil]
    exact exists_last_numeral hds front
  · rw [← List.append_assoc]
    cases hz with
    | upper => exact ⟨'Z', List.suffix_append _ _, by decide⟩
    | lower => exact ⟨'z', List.suffix_append _ _, by decide⟩
    | @offset sign hours minutes =>
      have h := exists_last_numeral (isNumeral_padded 2 minutes)
        (front ++ ds ++ sign :: (padded 2 hours ++ [':']))
      simpa using h

/-! ### Spellings -/

-- The ways to write a day, alone or with a time.
inductive Spells (d : Date) (t : TimeOfDay) : Precision → List Char → Prop
  | yearFirst : Spells d t .date d.yearFirst
  | dayFirst : Spells d t .date d.dayFirst
  | dayFirstMinutes : Spells d t .minutes (d.dayFirst ++ ' ' :: t.clock)
  | dayFirstSeconds :
      Spells d t .seconds (d.dayFirst ++ (' ' :: t.clock ++ ':' :: padded 2 t.second))
  | spacedMinutes : Spells d t .minutes (d.yearFirst ++ ' ' :: t.clock)
  | letteredMinutes {zone : List Char} (hz : zone = [] ∨ Zone zone) :
      Spells d t .minutes (d.yearFirst ++ ('T' :: t.clock ++ zone))
  | spacedSeconds {fraction zone : List Char} (hf : Fraction fraction)
      (hz : zone = [] ∨ Zone zone) :
      Spells d t .seconds
        (d.yearFirst ++ (' ' :: t.clock ++ (':' :: padded 2 t.second ++ (fraction ++ zone))))
  | letteredSeconds {fraction zone : List Char} (hf : Fraction fraction)
      (hz : zone = [] ∨ Zone zone) :
      Spells d t .seconds
        (d.yearFirst ++ ('T' :: t.clock ++ (':' :: padded 2 t.second ++ (fraction ++ zone))))

variable {precision : Precision}

-- A spelling begins with a number, and is long enough to be tried.
theorem Spells.exists_numeral (h : Spells d t precision cs) :
    ∃ ds rest, IsNumeral ds ∧ cs = ds ++ rest ∧ 8 ≤ cs.length := by
  have hyear (rest : List Char) : ∃ ds rest', IsNumeral ds ∧ d.yearFirst ++ rest = ds ++ rest' ∧
      8 ≤ (d.yearFirst ++ rest).length :=
    ⟨_, _, isNumeral_padded 4 d.year.natAbs, List.append_assoc ..,
      Nat.le_trans (le_length_yearFirst d) (by simp)⟩
  have hday (rest : List Char) : ∃ ds rest', IsNumeral ds ∧ d.dayFirst ++ rest = ds ++ rest' ∧
      8 ≤ (d.dayFirst ++ rest).length :=
    ⟨_, _, isNumeral_padded 2 d.day, List.append_assoc ..,
      Nat.le_trans (le_length_dayFirst d) (by simp)⟩
  cases h with
  | yearFirst => simpa using hyear []
  | dayFirst => simpa using hday []
  | dayFirstMinutes | dayFirstSeconds => exact hday _
  | spacedMinutes | letteredMinutes | spacedSeconds | letteredSeconds => exact hyear _

theorem tells_date (d : Date) : Tells (({} : Parts).setDate d) d ⟨0, 0, 0⟩ :=
  ⟨d.ofParts?_eq_some, rfl, Nat.succ_pos _⟩

theorem tells_minutes (d : Date) (t : TimeOfDay) :
    Tells ((({} : Parts).setDate d).setClock t) d { t with second := 0 } :=
  ⟨d.ofParts?_eq_some, rfl, Nat.succ_pos _⟩

theorem tells_seconds (d : Date) (t : TimeOfDay) :
    Tells (((({} : Parts).setDate d).setClock t).setSecond t) d t :=
  ⟨d.ofParts?_eq_some, rfl, Nat.succ_pos _⟩

theorem closes_clock (c : Char) (t : TimeOfDay) (zone : List Char) :
    Closes zone (c :: t.clock ++ zone) (c :: t.clock ++ spellZone zone) := by
  have h := (closes_numeral (isNumeral_padded 2 t.minute) zone).append
    (c :: padded 2 t.hour ++ [':'])
  simpa [TimeOfDay.clock] using h

theorem closes_seconds (c : Char) (t : TimeOfDay) (hf : Fraction fraction) (zone : List Char) :
    Closes zone (c :: t.clock ++ (':' :: padded 2 t.second ++ (fraction ++ zone)))
      (c :: t.clock ++ (':' :: padded 2 t.second ++ (fraction ++ spellZone zone))) :=
  (((closes_fraction (isNumeral_padded 2 t.second) hf zone).append [':'])).append (c :: t.clock)

-- The first form that fits a date shows it.
theorem search_date {fs : List Form} (d : Date) (t : TimeOfDay) :
    search (⟨[], false, .date⟩ :: fs) (({} : Parts).setDate d) [] [] =
      some (display .date d t) := by
  change _ = some (display .date d ⟨0, 0, 0⟩)
  exact search_cons_of_some (fit_nil _) (tells_date d).moment?_eq

-- The first form that fits a spelling shows the day and the time, and no zone has a say in that.
theorem Spells.exists_search (h : Spells d t precision cs) (hd : d.InRange) (ht : t.Valid) :
    ∃ zone zs, (zone = [] ∨ Zone zone) ∧ Closes zone cs zs ∧
      search forms {} cs zs = some (display precision d t) := by
  obtain ⟨hlettered, hspaced, hday⟩ := behind_onSeconds
  cases h with
  | yearFirst =>
    have hcloses := (closes_numeral (isNumeral_padded 2 d.day) []).append
      (padded 4 d.year.natAbs ++ '-' :: (padded 2 d.month ++ ['-']))
    have hsearch := search_yearFirst (p := {}) hd [] []
    refine ⟨[], d.yearFirst, .inl rfl, by simpa [Date.yearFirst, spellZone] using hcloses, ?_⟩
    rw [List.append_nil] at hsearch
    exact hsearch.trans (search_date d t)
  | dayFirst =>
    have hcloses := (closes_numeral (isNumeral_padded 4 d.year.natAbs) []).append
      (padded 2 d.day ++ '/' :: (padded 2 d.month ++ ['/']))
    have hsearch := search_dayFirst (p := {}) hd [] []
    refine ⟨[], d.dayFirst, .inl rfl, by simpa [Date.dayFirst, spellZone] using hcloses, ?_⟩
    rw [List.append_nil] at hsearch
    exact hsearch.trans (search_date d t)
  | dayFirstMinutes =>
    rw [← List.append_nil (' ' :: t.clock)]
    refine ⟨[], _, .inl rfl, (closes_clock ' ' t []).append d.dayFirst, ?_⟩
    rw [search_dayFirst hd, search_spaced ht behind_dayFirst_begin]
    exact search_minutes [⟨onSeconds, false, .seconds⟩] (by decide) (tells_minutes d t)
  | dayFirstSeconds =>
    rw [← List.append_nil (':' :: padded 2 t.second)]
    refine ⟨[], _, .inl rfl, (closes_seconds ' ' t .none []).append d.dayFirst, ?_⟩
    rw [search_dayFirst hd, search_spaced ht behind_dayFirst_begin,
      search_onSeconds ht (by decide), hday]
    exact search_cons_of_some (fit_nil _) (tells_seconds d t).moment?_eq
  | spacedMinutes =>
    rw [← List.append_nil (' ' :: t.clock)]
    refine ⟨[], _, .inl rfl, (closes_clock ' ' t []).append d.yearFirst, ?_⟩
    rw [search_yearFirst hd, search_spaced ht behind_yearFirst_begin]
    exact search_minutes [⟨onSeconds, false, .seconds⟩, ⟨onSeconds ++ [.fraction], false, .seconds⟩]
      (by decide) (tells_minutes d t)
  | @letteredMinutes zone hz =>
    refine ⟨zone, _, hz, (closes_clock 'T' t zone).append d.yearFirst, ?_⟩
    rw [search_yearFirst hd, search_lettered ht, behind_lettered]
    exact search_afterMinutes (tells_minutes d t) hz
  | @spacedSeconds fraction zone hf hz =>
    refine ⟨zone, _, hz, (closes_seconds ' ' t hf zone).append d.yearFirst, ?_⟩
    rw [search_yearFirst hd, search_spaced ht behind_yearFirst_begin,
      search_onSeconds ht (by decide), hspaced]
    exact search_afterSeconds (tells_seconds d t) hf hz
  | @letteredSeconds fraction zone hf hz =>
    refine ⟨zone, _, hz, (closes_seconds 'T' t hf zone).append d.yearFirst, ?_⟩
    rw [search_yearFirst hd, search_lettered ht, search_onSeconds ht (by decide), hlettered]
    exact search_afterSeconds (tells_seconds d t) hf hz

/-! ### What a spelling is displayed as -/

theorem reformat?_of_isCandidate {text : String} (h : Text.trim text.toList = cs)
    (hcs : isCandidate cs = true) :
    reformat? text = (search forms {} cs (spellZone cs)).map String.ofList := by
  have hread (f : Form) : (f.read cs).map (fun x => String.ofList (display f.precision x.1 x.2)) =
      ((fit f.items {} (if f.hasOffset then spellZone cs else cs)).bind fun q =>
        q.moment?.map fun x => display f.precision x.1 x.2).map String.ofList := by
    rw [Form.read_eq, Form.spelling]
    cases fit f.items {} (if f.hasOffset then spellZone cs else cs) with
    | none => rfl
    | some q =>
      rw [Option.bind_some, Option.bind_some]
      cases q.moment? <;> rfl
  simp only [reformat?, h, hcs, if_true, search, List.map_findSome?]
  exact congrArg (List.findSome? · forms) (funext hread)

theorem isCandidate_append {ds rest : List Char} (hds : IsNumeral ds)
    (hlength : 8 ≤ (ds ++ rest).length) : isCandidate (ds ++ rest) = true := by
  have hbytes := Utf8.length_le_byteLength (ds ++ rest)
  obtain ⟨c, ds, rfl⟩ := List.exists_cons_of_ne_nil hds.ne_nil
  refine Bool.and_eq_true_iff.2 ⟨decide_eq_true (by omega), hds.digits c (.head _)⟩

theorem Spells.reformat?_eq {before after : List Char} (h : Spells d t precision cs)
    (hd : d.InRange) (ht : t.Valid) (hbefore : ∀ c ∈ before, Text.isBlank c = true)
    (hafter : ∀ c ∈ after, Text.isBlank c = true) :
    reformat? (String.ofList (before ++ cs ++ after)) =
      some (String.ofList (display precision d t)) := by
  obtain ⟨zone, zs, hz, hcloses, hsearch⟩ := h.exists_search hd ht
  obtain ⟨z, hlast, hz'⟩ := hcloses.exists_last hz
  obtain ⟨ds, rest, hds, rfl, hlength⟩ := h.exists_numeral
  obtain ⟨a, tail, rfl⟩ := List.exists_cons_of_ne_nil hds.ne_nil
  have ha := isBlank_of_isDigit (hds.digits a (.head _))
  have htrim : Text.trim (String.ofList (before ++ (a :: tail ++ rest) ++ after)).toList =
      a :: tail ++ rest := by
    rw [String.toList_ofList]
    exact Text.trim_append hbefore hafter ⟨tail ++ rest, rfl⟩ hlast ⟨ha, hz'⟩
  rw [reformat?_of_isCandidate htrim (isCandidate_append hds hlength), hcloses.spellZone_eq hz,
    hsearch]
  rfl

-- The hours of a day on a clock of twelve, in the first and in the second half of the day.
inductive OnClock : Nat → Nat → String → Prop
  | morning {h : Nat} (hlow : 1 ≤ h) (hhigh : h ≤ 12) : OnClock (h % 12) h "AM"
  | evening {h : Nat} (hlow : 1 ≤ h) (hhigh : h ≤ 12) : OnClock (h % 12 + 12) h "PM"

def fixed (width n : Nat) : String :=
  String.ofList (padded width n)

def dayText (d : Date) : String :=
  natText d.day ++ " " ++ monthName d.month ++ " " ++ fixed 4 d.year.natAbs

-- A day with the name of its month, and a time on a clock of twelve hours unless the day is alone.
inductive Shows (d : Date) (t : TimeOfDay) : Precision → String → Prop
  | date : Shows d t .date (dayText d)
  | minutes {h : Nat} {half : String} (hh : OnClock t.hour h half) : Shows d t .minutes
      (dayText d ++ ", " ++ natText h ++ ":" ++ fixed 2 t.minute ++ " " ++ half)
  | seconds {h : Nat} {half : String} (hh : OnClock t.hour h half) : Shows d t .seconds
      (dayText d ++ ", " ++ natText h ++ ":" ++ fixed 2 t.minute ++ ":" ++ fixed 2 t.second ++
        " " ++ half)

theorem onClock (ht : t.Valid) : OnClock t.hour t.hour12 (String.ofList t.half) := by
  have hhour := ht.hour
  have hlow : 1 ≤ t.hour12 := by
    unfold TimeOfDay.hour12
    split <;> omega
  have hhigh : t.hour12 ≤ 12 := by
    unfold TimeOfDay.hour12
    split <;> omega
  have hmod : t.hour12 % 12 = t.hour % 12 := by
    unfold TimeOfDay.hour12
    split <;> omega
  by_cases h : t.hour < 12
  · have hhalf : String.ofList t.half = "AM" := by
      rw [TimeOfDay.half, if_pos h]
    have he : t.hour12 % 12 = t.hour := by omega
    rw [hhalf]
    exact he ▸ OnClock.morning hlow hhigh
  · have hhalf : String.ofList t.half = "PM" := by
      rw [TimeOfDay.half, if_neg h]
    have he : t.hour12 % 12 + 12 = t.hour := by omega
    rw [hhalf]
    exact he ▸ OnClock.evening hlow hhigh

theorem toList_dayText (hd : d.InRange) : (dayText d).toList = d.longChars := by
  have hyear : yearChars d.year = padded 4 d.year.natAbs := if_pos (by simp [hd.1, hd.2])
  simp [dayText, fixed, Date.longChars, hyear, toList_natText]

theorem shows_display (hd : d.InRange) (ht : t.Valid) (precision : Precision) :
    Shows d t precision (String.ofList (display precision d t)) := by
  have hday := toList_dayText hd
  cases precision with
  | date =>
    have he : String.ofList (display .date d t) = dayText d := by
      rw [← String.toList_inj, hday, String.toList_ofList]
      rfl
    exact he ▸ .date
  | minutes =>
    have he : String.ofList (display .minutes d t) = dayText d ++ ", " ++ natText t.hour12 ++ ":" ++
        fixed 2 t.minute ++ " " ++ String.ofList t.half := by
      simp [← String.toList_inj, hday, toList_natText, fixed, display, TimeOfDay.chars]
    exact he ▸ .minutes (onClock ht)
  | seconds =>
    have he : String.ofList (display .seconds d t) = dayText d ++ ", " ++ natText t.hour12 ++ ":" ++
        fixed 2 t.minute ++ ":" ++ fixed 2 t.second ++ " " ++ String.ofList t.half := by
      simp [← String.toList_inj, hday, toList_natText, fixed, display, TimeOfDay.chars]
    exact he ▸ .seconds (onClock ht)

-- All spellings of a day and a time with one precision are displayed as the same, which is that day
-- and that time, whatever zone is named behind it.
theorem reformat?_spellings (hd : d.InRange) (ht : t.Valid) (precision : Precision) :
    ∃ shown, Shows d t precision shown ∧ ∀ cs before after, Spells d t precision cs →
      (∀ c ∈ before, Text.isBlank c = true) → (∀ c ∈ after, Text.isBlank c = true) →
        reformat? (String.ofList (before ++ cs ++ after)) = some shown :=
  ⟨_, shows_display hd ht precision, fun _ _ _ h hbefore hafter =>
    h.reformat?_eq hd ht hbefore hafter⟩

-- Noon of a leap day.
theorem reformat?_spellings_noon :
    let d : Date := ⟨2000, 2, 29, by decide⟩
    let t : TimeOfDay := ⟨12, 0, 30⟩
    (d.InRange ∧ t.Valid) ∧ ∃ shown, Shows d t .seconds shown ∧
      ∀ cs before after, Spells d t .seconds cs → (∀ c ∈ before, Text.isBlank c = true) →
        (∀ c ∈ after, Text.isBlank c = true) →
          reformat? (String.ofList (before ++ cs ++ after)) = some shown := by
  intro d t
  have hd : d.InRange := ⟨by decide, by decide⟩
  have ht : t.Valid := ⟨by decide, by decide, by decide⟩
  exact ⟨⟨hd, ht⟩, reformat?_spellings hd ht .seconds⟩

example : reformat? " 2000-02-29T12:00:30.25-23:59\n" = some "29 February 2000, 12:00:30 PM" := by
  decide +kernel

end DateText
end AccessReport
