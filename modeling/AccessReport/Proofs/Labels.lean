import AccessReport.Proofs.CaseMapping
import AccessReport.Proofs.KeyWords

namespace AccessReport

namespace Case

variable {before cs : List Char} {c x : Char}

-- The lower case of a character between others.
def lowerAt (before : List Char) (c : Char) (cs : List Char) : List Char :=
  if c = 'Σ' then
    if meetsCased before && !meetsCased cs then ['ς'] else ['σ']
  else
    lowerChar c

theorem go_cons : lower.go before (c :: cs) = lowerAt before c cs ++ lower.go (c :: before) cs :=
  rfl

theorem lowerAt_cases (before : List Char) (c : Char) (cs : List Char) :
    lowerAt before c cs = lowerChar c ∨ lowerAt before c cs = ['ς'] := by
  unfold lowerAt
  split
  case isTrue hc =>
    subst hc
    split
    case isTrue => exact .inr rfl
    case isFalse => exact .inl (by decide)
  case isFalse => exact .inl rfl

theorem lowerAt_nil : lowerAt [] c cs = lowerChar c := by
  unfold lowerAt
  split
  case isTrue hc =>
    subst hc
    exact (by decide : (['σ'] : List Char) = lowerChar 'Σ')
  case isFalse => rfl

theorem lowerAt_of_fixed (h : lowerChar c = [c]) : lowerAt before c cs = [c] := by
  unfold lowerAt
  split
  case isTrue hc =>
    subst hc
    exact absurd h (by decide)
  case isFalse => exact h

theorem lowerAt_ne_nil : lowerAt before c cs ≠ [] := by
  obtain h | h := lowerAt_cases before c cs <;> rw [h]
  · exact lowerChar_ne_nil c
  · exact List.cons_ne_nil _ _

theorem lowerChar_of_mem_lowerAt (h : x ∈ lowerAt before c cs) : lowerChar x = [x] := by
  obtain hl | hl := lowerAt_cases before c cs <;> rw [hl] at h
  · exact lowerChar_lowerChar h
  · rw [List.mem_singleton] at h
    subst h
    decide

theorem isSeparator_of_mem_lowerAt (hc : Label.isSeparator c = false)
    (h : x ∈ lowerAt before c cs) : Label.isSeparator x = false := by
  obtain hl | hl := lowerAt_cases before c cs <;> rw [hl] at h
  · exact isSeparator_of_mem_lowerChar hc h
  · rw [List.mem_singleton] at h
    subst h
    decide

theorem lowerChar_of_mem_go (h : x ∈ lower.go before cs) : lowerChar x = [x] := by
  induction cs generalizing before with
  | nil => cases h
  | cons c cs ih =>
    rw [go_cons, List.mem_append] at h
    obtain h | h := h
    · exact lowerChar_of_mem_lowerAt h
    · exact ih h

theorem go_of_fixed (h : ∀ x ∈ cs, lowerChar x = [x]) : lower.go before cs = cs := by
  induction cs generalizing before with
  | nil => rfl
  | cons c cs ih =>
    rw [go_cons, lowerAt_of_fixed (h c (.head _)), ih fun x hx => h x (.tail _ hx)]
    rfl

theorem lower_cons : lower (c :: cs) = lowerChar c ++ lower.go [c] cs := by
  rw [lower, go_cons, lowerAt_nil]

end Case

namespace Label

open Case

variable {before cs : List Char} {ws : List (List Char)} {c u x : Char} {key : String}

/-! ### Cutting -/

theorem areWords_words (cs : List Char) : AreWords (words cs) :=
  words_eq cs ▸ areWords_stretches _

-- A text is not cut where no capital follows.
theorem spacedAt_of_tail (h : ∀ x ∈ cs.tail, isUpper x = false) : spacedAt isBoundary cs = cs := by
  induction cs with
  | nil => rfl
  | cons a cs ih =>
    have hboundary : isBoundary a cs = false := by
      cases cs with
      | nil => rfl
      | cons b cs =>
        have hb : isUpper b = false := h b (.head _)
        rw [isBoundary, isAcronym_of_next hb, isCamel, hb, Bool.and_false, Bool.or_false]
    rw [spacedAt_of_neg hboundary, ih fun x hx => h x (List.mem_of_mem_tail hx)]

theorem words_join (hne : ws ≠ []) (hws : AreWords ws)
    (h : ∀ x ∈ (Text.join [' '] ws).tail, isUpper x = false) : words (Text.join [' '] ws) = ws := by
  rw [words_eq, spacedAt_of_tail h, stretches,
    Text.cut_join hne (fun w hw => (hws w hw).2) (by decide)]
  exact List.filter_eq_self.2 fun w hw => by simpa using (hws w hw).1

-- A text that does not begin with a separator begins with its first word.
theorem words_cons (hu : isSeparator u = false) (cs : List Char) :
    ∃ w ws, words (u :: cs) = (u :: w) :: ws := by
  obtain ⟨ds, hd⟩ := exists_spacedAt_cons (p := isBoundary) u cs
  obtain ⟨w, ws, hstretches, -⟩ := exists_stretches hu ds
  exact ⟨w, ws, by rw [words_eq, hd, hstretches]⟩

/-! ### Lower case -/

theorem go_append (before w rest : List Char) : ∃ v, lower.go before (w ++ rest) =
    v ++ lower.go (w.reverse ++ before) rest ∧ (w ≠ [] → v ≠ []) ∧
      ((∀ c ∈ w, isSeparator c = false) → ∀ c ∈ v, isSeparator c = false) := by
  induction w generalizing before with
  | nil => exact ⟨[], rfl, fun h => h, fun _ => nofun⟩
  | cons c w ih =>
    obtain ⟨v, hv, _, hseparator⟩ := ih (c :: before)
    refine ⟨lowerAt before c (w ++ rest) ++ v, ?_, ?_, ?_⟩
    · rw [List.cons_append, go_cons, hv]
      simp
    · intro _ h
      exact lowerAt_ne_nil (List.append_eq_nil_iff.1 h).1
    · intro h x hx
      obtain hx | hx := List.mem_append.1 hx
      · exact isSeparator_of_mem_lowerAt (h c (.head _)) hx
      · exact hseparator (fun c hc => h c (.tail _ hc)) x hx

-- Words stay words in lower case.
theorem go_join (before : List Char) (hne : ws ≠ []) (hws : AreWords ws) :
    ∃ vs, vs ≠ [] ∧ AreWords vs ∧ lower.go before (Text.join [' '] ws) = Text.join [' '] vs := by
  induction ws generalizing before with
  | nil => exact absurd rfl hne
  | cons w ws ih =>
    have ⟨hw, hseparator⟩ := hws w (.head _)
    cases ws with
    | nil =>
      obtain ⟨v, hv, hv', hv''⟩ := go_append before w []
      refine ⟨[v], List.cons_ne_nil _ _, ?_, ?_⟩
      · rintro _ (_ | ⟨_, ⟨⟩⟩)
        exact ⟨hv' hw, hv'' hseparator⟩
      · simpa [Text.join, lower.go] using hv
    | cons u ws =>
      obtain ⟨v, hv, hv', hv''⟩ := go_append before w (' ' :: Text.join [' '] (u :: ws))
      obtain ⟨vs, hvs, hwords, hjoin⟩ := ih (' ' :: (w.reverse ++ before))
        (List.cons_ne_nil _ _) fun w hw => hws w (.tail _ hw)
      have hspace : lowerChar ' ' = [' '] := lowerChar_of_isSeparator (by decide)
      obtain ⟨v', vs, rfl⟩ := List.exists_cons_of_ne_nil hvs
      refine ⟨v :: v' :: vs, List.cons_ne_nil _ _, ?_, ?_⟩
      · intro x hx
        cases hx with
        | head => exact ⟨hv' hw, hv'' hseparator⟩
        | tail _ hx => exact hwords x hx
      · rw [Text.join_cons_cons, Text.join_cons_cons, List.append_assoc, List.singleton_append, hv,
          go_cons, lowerAt_of_fixed hspace, hjoin]
        simp

/-! ### Labels -/

-- The words of a key in lower case.
structure Lowered (c : Char) (cs : List Char) : Prop where
  fixed : ∀ x ∈ c :: cs, lowerChar x = [x]
  words : ∃ w ws, AreWords ((c :: w) :: ws) ∧ c :: cs = Text.join [' '] ((c :: w) :: ws)

theorem humanize_of_nil (h : words key.toList = []) : humanize key = key := by
  rw [humanize, trim_spaced, h]
  rfl

theorem humanize_of_words (h : words key.toList ≠ []) :
    (humanize key).toList = capitalize (lower (Text.join [' '] (words key.toList))) := by
  obtain ⟨a, -, ⟨t, hjoin⟩, -⟩ := exists_ends h (areWords_words _)
  unfold humanize
  rw [trim_spaced]
  split
  case h_1 hlower =>
    rw [← hjoin, List.singleton_append, lower_cons] at hlower
    exact absurd (List.append_eq_nil_iff.1 hlower).1 (lowerChar_ne_nil a)
  case h_2 => exact String.toList_ofList

-- A label is what was put in front, and words in lower case.
theorem exists_lowered (h : words key.toList ≠ []) :
    ∃ c cs, Lowered c cs ∧ lower (Text.join [' '] (words key.toList)) = c :: cs ∧
      (humanize key).toList = upperChar c ++ cs := by
  obtain ⟨vs, hvs, hwords, hjoin⟩ := go_join [] h (areWords_words _)
  obtain ⟨v, vs, rfl⟩ := List.exists_cons_of_ne_nil hvs
  obtain ⟨c, w, rfl⟩ := List.exists_cons_of_ne_nil (hwords v (.head _)).1
  have hcons : ∃ cs, Text.join [' '] ((c :: w) :: vs) = c :: cs :=
    ⟨_, Text.join_cons ..⟩
  obtain ⟨cs, hcs⟩ := hcons
  have hlower : lower (Text.join [' '] (words key.toList)) = c :: cs := hjoin.trans hcs
  refine ⟨c, cs, ⟨fun x hx => ?_, w, vs, hwords, hcs.symm⟩, hlower, ?_⟩
  · rw [← hcs, ← hjoin] at hx
    exact lowerChar_of_mem_go hx
  · rw [humanize_of_words h, hlower, capitalize]

-- The upper case that is in front of the words belongs to the first of them.
theorem Lowered.upper {cs : List Char} (h : Lowered c cs) :
    ∃ ws, ws ≠ [] ∧ AreWords ws ∧ upperChar c ++ cs = Text.join [' '] ws := by
  obtain ⟨w, ws, hwords, hjoin⟩ := h.words
  refine ⟨(upperChar c ++ w) :: ws, List.cons_ne_nil _ _, ?_, ?_⟩
  · intro v hv
    cases hv with
    | head =>
      have hcw := (hwords _ (.head _)).2
      refine ⟨by simp [upperChar_ne_nil], fun x hx => ?_⟩
      obtain hx | hx := List.mem_append.1 hx
      · exact isSeparator_of_mem_upperChar (hcw c (.head _)) hx
      · exact hcw x (.tail _ hx)
    | tail _ hv => exact hwords v (.tail _ hv)
  · have hcs : cs = Text.join [' '] (w :: ws) :=
      (List.cons_eq_cons.1 (hjoin.trans (Text.join_cons ..))).2
    rw [Text.join_append_cons, hcs]

-- The label of a label is in lower case behind its first character, which stays.
theorem humanize_label (h : words key.toList ≠ []) : ∃ u us rest,
    (humanize key).toList = u :: us ∧ (humanize (humanize key)).toList = u :: rest ∧
      (∀ x ∈ rest, lowerChar x = [x]) ∧ ((∀ x ∈ us, lowerChar x = [x]) → rest = us) := by
  obtain ⟨c, cs, hlowered, -, hlabel⟩ := exists_lowered h
  obtain ⟨u, t, hu⟩ := List.exists_cons_of_ne_nil (upperChar_ne_nil c)
  obtain ⟨l, hl, hlu⟩ := exists_lowerChar_of_upperChar (hlowered.fixed c (.head _)) hu
  obtain ⟨vs, hvs, hwords, hjoin⟩ := hlowered.upper
  have hus : (humanize key).toList = u :: (t ++ cs) := by
    rw [hlabel, hu]
    rfl
  have hseparator : isSeparator u = false := by
    obtain ⟨w, ws, hlower, _⟩ := hlowered.words
    exact isSeparator_of_mem_upperChar ((hlower _ (.head _)).2 c (.head _)) (hu ▸ .head _)
  obtain ⟨w, ws, hw⟩ := words_cons hseparator (t ++ cs)
  rw [← hus] at hw
  have hagain : (humanize (humanize key)).toList =
      u :: lower.go [u] (Text.join [' '] (w :: ws)) := by
    rw [humanize_of_words (by simp [hw]), hw, Text.join_cons,
      lower_cons, hl, List.singleton_append, capitalize, hlu]
    rfl
  refine ⟨u, t ++ cs, _, hus, hagain, fun x hx => lowerChar_of_mem_go hx, fun hfixed => ?_⟩
  -- nothing is cut that was not cut before
  have hvs' : words (humanize key).toList = vs := by
    rw [hlabel, hjoin]
    refine words_join hvs hwords fun x hx => isUpper_of_lowerChar_eq (hfixed x ?_)
    rwa [← hjoin, ← hlabel, hus] at hx
  have hrest : Text.join [' '] (w :: ws) = t ++ cs := by
    rw [← hvs', hw, ← hlabel, hus, Text.join_cons] at hjoin
    exact (List.cons_eq_cons.1 hjoin).2.symm
  rw [hrest]
  exact go_of_fixed hfixed

-- A key without words has separators only.
theorem isSeparator_of_words (h : words cs = []) (hc : c ∈ cs) : isSeparator c = true := by
  cases hs : isSeparator c with
  | true => rfl
  | false =>
    rw [words_eq] at h
    obtain ⟨w, hw, hcw⟩ := Text.exists_mem_cut ((sublist_spacedAt cs).subset hc) hs
    have hempty := List.filter_eq_nil_iff.1 h w hw
    simp only [Bool.not_eq_true', Bool.not_eq_false, List.isEmpty_iff] at hempty
    subst hempty
    cases hcw

-- A label stays what it is just if nothing behind its first character has a lower case.
theorem humanize_humanize_iff : humanize (humanize key) = humanize key ↔
    ∀ x ∈ (humanize key).toList.tail, lowerChar x = [x] := by
  by_cases h : words key.toList = []
  case pos =>
    have hkey : humanize key = key := humanize_of_nil h
    rw [hkey, hkey]
    exact iff_of_true rfl fun x hx =>
      lowerChar_of_isSeparator (isSeparator_of_words h (List.mem_of_mem_tail hx))
  case neg =>
    obtain ⟨u, us, rest, hlabel, hagain, hrest, hsame⟩ := humanize_label h
    rw [hlabel, List.tail_cons]
    constructor
    · intro heq
      rw [heq, hlabel] at hagain
      rw [(List.cons_eq_cons.1 hagain).2]
      exact hrest
    · intro hfixed
      rw [← String.toList_inj, hagain, hlabel, hsame hfixed]

/-! ### The passes and the words -/

-- The label that the words of a key make.
def sentence (key : String) : String :=
  match words key.toList with
  | [] => key
  | ws => String.ofList (capitalize (lower (Text.join [' '] ws)))

-- Single spaces between other characters, and no other separators.
structure EvenlySpaced (cs : List Char) : Prop where
  only   : ∀ c ∈ cs, isSeparator c = true → c = ' '
  first  : cs.head? ≠ some ' '
  last   : cs.getLast? ≠ some ' '
  single : ¬[' ', ' '] <:+: cs

theorem evenlySpaced_join (hne : ws ≠ []) (hws : AreWords ws) :
    EvenlySpaced (Text.join [' '] ws) := by
  have hspace : isSeparator ' ' = true := by decide
  have hcut : Text.cut isSeparator (Text.join [' '] ws) = ws :=
    Text.cut_join hne (fun w hw => (hws w hw).2) hspace
  obtain ⟨a, z, ⟨t, ht⟩, ⟨u, hu⟩, ha, hz⟩ := exists_ends hne hws
  refine ⟨fun c hc hs => ?only, fun hfirst => ?first, fun hlast => ?last, ?single⟩
  case only =>
    obtain hc | ⟨w, hw, hc⟩ := Text.mem_join hc
    · exact List.mem_singleton.1 hc
    · rw [(hws w hw).2 c hc] at hs
      cases hs
  case first =>
    rw [← ht] at hfirst
    obtain rfl := Option.some.inj hfirst
    exact absurd hspace (by simp [ha])
  case last =>
    rw [← hu, List.getLast?_concat] at hlast
    obtain rfl := Option.some.inj hlast
    exact absurd hspace (by simp [hz])
  case single =>
    -- between two spaces there would be an empty word
    rintro ⟨l, r, hlr⟩
    have hempty : [] ∈ Text.cut isSeparator (Text.join [' '] ws) := by
      have hjoin : Text.join [' '] ws = l ++ ' ' :: ' ' :: r := by rw [← hlr]; simp
      rw [hjoin, Text.cut_append_cons l _ hspace, Text.cut, if_pos hspace]
      exact List.mem_append_right _ (.head _)
    rw [hcut] at hempty
    exact (hws [] hempty).1 rfl

-- The passes over a key make the label of its words, and one that is evenly spaced and has no
-- capitals behind what is put in front of it, unless the key has no words.
theorem humanize_eq_sentence (key : String) : humanize key = sentence key ∧
    (words key.toList = [] ∧ humanize key = key ∨
      ∃ c cs, lower (Text.join [' '] (words key.toList)) = c :: cs ∧
        (humanize key).toList = upperChar c ++ cs ∧ EvenlySpaced (upperChar c ++ cs) ∧
        ∀ x ∈ cs, isUpper x = false) := by
  by_cases h : words key.toList = []
  case pos =>
    refine ⟨?_, .inl ⟨h, humanize_of_nil h⟩⟩
    rw [humanize_of_nil h, sentence, h]
  case neg =>
    obtain ⟨c, cs, hlowered, hlower, hlabel⟩ := exists_lowered h
    obtain ⟨ws, hne, hws, hjoin⟩ := hlowered.upper
    refine ⟨?_, .inr ⟨c, cs, hlower, hlabel, hjoin ▸ evenlySpaced_join hne hws, fun x hx => ?_⟩⟩
    · obtain ⟨w, ws, hwords⟩ := List.exists_cons_of_ne_nil h
      rw [← String.toList_inj, humanize_of_words h, sentence, hwords, String.toList_ofList]
    · exact isUpper_of_lowerChar_eq (hlowered.fixed x (.tail _ hx))

example : humanize "bookingID__PNCNumber.2Ab" = "Booking id pnc number 2 ab" := by decide +kernel

end Label

end AccessReport
