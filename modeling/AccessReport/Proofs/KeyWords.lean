import AccessReport.Content.Label
import AccessReport.Proofs.Cutting

namespace AccessReport

namespace Text

section Replacing

variable {β : Type} {p : Char → Bool} {behind : List Char → Option β} {found : β}
  {find : List Char → Option (List Char × List Char)} {c : Char} {cs run new front rest : List Char}

theorem greedy_cons : greedy p behind (c :: cs) =
    if p c then
      match greedy p behind cs with
      | some (run, found) => some (c :: run, found)
      | none => (behind cs).map fun found => ([c], found)
    else none :=
  rfl

theorem exists_of_greedy (h : greedy p behind cs = some (run, found)) :
    ∃ rest, cs = run ++ rest ∧ run ≠ [] ∧ (∀ c ∈ run, p c = true) ∧ behind rest = some found := by
  induction cs generalizing run with
  | nil => cases h
  | cons c cs ih =>
    rw [greedy_cons] at h
    split at h
    case isFalse => cases h
    case isTrue hc =>
      split at h
      case h_1 run' found' hrun =>
        obtain ⟨rfl, rfl⟩ := Prod.mk.inj (Option.some.inj h)
        obtain ⟨rest, rfl, -, hall, hrest⟩ := ih hrun
        exact ⟨rest, rfl, List.cons_ne_nil _ _, List.forall_mem_cons.2 ⟨hc, hall⟩, hrest⟩
      case h_2 =>
        obtain ⟨found', hfound, heq⟩ := Option.map_eq_some_iff.1 h
        obtain ⟨rfl, rfl⟩ := Prod.mk.inj heq
        exact ⟨cs, rfl, List.cons_ne_nil _ _, by simpa using hc, hfound⟩

-- Where nothing is found, one character alone does not do either.
theorem behind_of_greedy (hc : p c = true) (h : greedy p behind (c :: cs) = none) :
    behind cs = none := by
  rw [greedy_cons, if_pos hc] at h
  split at h
  case h_1 => cases h
  case h_2 => exact Option.map_eq_none_iff.1 h

theorem greedy_of_not (hc : p c = false) : greedy p behind (c :: cs) = none :=
  if_neg (by simp [hc])

-- With anything behind it, a run is as long as it can be.
theorem greedy_some (hc : p c = true) :
    greedy p some (c :: cs) = some (c :: cs.takeWhile p, cs.dropWhile p) := by
  induction cs generalizing c with
  | nil =>
    rw [greedy_cons, if_pos hc, greedy, Option.map_some, List.takeWhile_nil, List.dropWhile_nil]
  | cons d ds ih =>
    rw [greedy_cons, if_pos hc]
    cases hd : p d with
    | true => rw [ih hd, List.takeWhile_cons_of_pos hd, List.dropWhile_cons_of_pos hd]
    | false =>
      have hnot : ¬p d = true := by simp [hd]
      rw [greedy_of_not hd, List.takeWhile_cons_of_neg hnot, List.dropWhile_cons_of_neg hnot,
        Option.map_some]

theorem go_append (front rest : List Char) :
    replaceAll.go find front.length (front ++ rest) = replaceAll find rest := by
  induction front with
  | nil => rfl
  | cons c cs ih => exact ih

theorem replaceAll_of_none (h : find (c :: cs) = none) :
    replaceAll find (c :: cs) = c :: replaceAll find cs := by
  rw [replaceAll, replaceAll.go, h, replaceAll]

theorem replaceAll_of_some (h : find (c :: (front ++ rest)) = some (new, rest)) :
    replaceAll find (c :: (front ++ rest)) = new ++ replaceAll find rest := by
  have hlength : (front ++ rest).length - rest.length = front.length := by simp
  rw [replaceAll, replaceAll.go, h]
  dsimp only
  rw [hlength, go_append]

end Replacing

end Text

namespace Label

variable {a b c : Char} {cs ds w : List Char} {ws : List (List Char)}

/-! ### Where a key is cut -/

-- A small letter or a digit in front of a capital.
def isCamel (a : Char) : List Char → Bool
  | [] => false
  | b :: _ => (isLower a || isDigit a) && isUpper b

-- A capital in front of a capital that a small letter follows.
def isAcronym (a : Char) : List Char → Bool
  | b :: c :: _ => isUpper a && isUpper b && isLower c
  | _ => false

-- Whether a key is cut between a character and those behind it.
def isBoundary (a : Char) (cs : List Char) : Bool :=
  isCamel a cs || isAcronym a cs

-- The stretches of a key between its boundaries and separators, empty ones included.
def pieces : List Char → List (List Char)
  | [] => [[]]
  | a :: cs =>
    if isSeparator a then [] :: pieces cs
    else if isBoundary a cs then [a] :: pieces cs
    else match pieces cs with
      | [] => [[a]]
      | w :: ws => (a :: w) :: ws

def words (key : List Char) : List (List Char) :=
  (pieces key).filter (!·.isEmpty)

-- A text with a space behind all characters with `p`.
def spacedAt (p : Char → List Char → Bool) : List Char → List Char
  | [] => []
  | a :: cs => if p a cs then a :: ' ' :: spacedAt p cs else a :: spacedAt p cs

section SpacedAt

variable {p q : Char → List Char → Bool}

theorem spacedAt_of_pos (h : p a cs = true) : spacedAt p (a :: cs) = a :: ' ' :: spacedAt p cs :=
  if_pos h

theorem spacedAt_of_neg (h : p a cs = false) : spacedAt p (a :: cs) = a :: spacedAt p cs :=
  if_neg (by simp [h])

theorem exists_spacedAt_cons (a : Char) (cs : List Char) :
    ∃ ds, spacedAt p (a :: cs) = a :: ds := by
  rw [spacedAt]
  split
  case isTrue => exact ⟨_, rfl⟩
  case isFalse => exact ⟨_, rfl⟩

theorem sublist_spacedAt (cs : List Char) : cs.Sublist (spacedAt p cs) := by
  induction cs with
  | nil => exact .refl _
  | cons a cs ih =>
    rw [spacedAt]
    split
    case isTrue => exact (ih.cons _).cons_cons _
    case isFalse => exact ih.cons_cons _

end SpacedAt

theorem isUpper_of_isLower (h : isLower c = true) : isUpper c = false := by
  simp only [isLower, isUpper, Bool.and_eq_true, Bool.and_eq_false_iff, decide_eq_true_eq,
    decide_eq_false_iff_not] at h ⊢
  exact .inr fun hle => absurd (Char.le_trans h.1 hle) (by decide)

theorem isUpper_of_isDigit (h : isDigit c = true) : isUpper c = false := by
  simp only [isDigit, isUpper, Bool.and_eq_true, Bool.and_eq_false_iff, decide_eq_true_eq,
    decide_eq_false_iff_not] at h ⊢
  exact .inl fun hle => absurd (Char.le_trans hle h.2) (by decide)

theorem isCamel_of_upper (h : isUpper a = true) : isCamel a cs = false := by
  cases cs with
  | nil => rfl
  | cons b cs =>
    have hlower : isLower a = false := by
      cases hl : isLower a with
      | false => rfl
      | true => simp [isUpper_of_isLower hl] at h
    have hdigit : isDigit a = false := by
      cases hd : isDigit a with
      | false => rfl
      | true => simp [isUpper_of_isDigit hd] at h
    simp [isCamel, hlower, hdigit]

theorem isAcronym_of_not_upper (h : isUpper a = false) : isAcronym a cs = false := by
  match cs with
  | [] => rfl
  | [_] => rfl
  | b :: c :: cs => simp [isAcronym, h]

theorem isAcronym_of_next (h : isUpper b = false) : isAcronym a (b :: cs) = false := by
  cases cs with
  | nil => rfl
  | cons c cs => simp [isAcronym, h]

/-! ### The first two passes -/

theorem replaceAll_camel : (cs : List Char) → Text.replaceAll camel cs = spacedAt isCamel cs
  | [] => rfl
  | [_] => rfl
  | a :: b :: cs => by
    have hcamel : isCamel a (b :: cs) = ((isLower a || isDigit a) && isUpper b) := rfl
    cases h : isCamel a (b :: cs) with
    | true =>
      rw [hcamel] at h
      have hb : isUpper b = true := (Bool.and_eq_true_iff.1 h).2
      have hfound : camel (a :: ([b] ++ cs)) = some ([a, ' ', b], cs) := if_pos h
      rw [spacedAt_of_pos (hcamel.trans h), spacedAt_of_neg (isCamel_of_upper hb),
        ← replaceAll_camel cs]
      exact Text.replaceAll_of_some hfound
    | false =>
      rw [spacedAt_of_neg h, ← replaceAll_camel (b :: cs)]
      exact Text.replaceAll_of_none (if_neg (by simp [← hcamel, h]))

theorem exists_of_capitalized {word rest : List Char} (h : capitalized cs = some (word, rest)) :
    ∃ b c, cs = b :: c :: rest ∧ word = [b, c] ∧ isUpper b = true ∧ isLower c = true := by
  unfold capitalized at h
  split at h
  case h_1 b c cs =>
    split at h
    case isFalse => cases h
    case isTrue hbc =>
      obtain ⟨rfl, rfl⟩ := Prod.mk.inj (Option.some.inj h)
      exact ⟨b, c, rfl, rfl, Bool.and_eq_true_iff.1 hbc⟩
  case h_2 => cases h

-- Among capitals there is a boundary only in front of the last one, if a small letter follows it.
theorem spacedAt_run {run rest : List Char} (hne : run ≠ []) (hrun : ∀ c ∈ run, isUpper c = true)
    (hb : isUpper b = true) (hc : isLower c = true) :
    spacedAt isAcronym (run ++ b :: c :: rest) =
      run ++ ' ' :: b :: c :: spacedAt isAcronym rest := by
  have hc' : isUpper c = false := isUpper_of_isLower hc
  induction run with
  | nil => exact absurd rfl hne
  | cons u run ih =>
    have hu := hrun u (.head _)
    have hrest := fun c hc => hrun c (.tail _ hc)
    match run with
    | [] =>
      have hboundary : isAcronym u (b :: c :: rest) = true := by simp [isAcronym, hu, hb, hc]
      rw [List.singleton_append, spacedAt_of_pos hboundary, spacedAt_of_neg (isAcronym_of_next hc'),
        spacedAt_of_neg (isAcronym_of_not_upper hc')]
      rfl
    | v :: run =>
      have hsmall {x : Char} (hx : isUpper x = true) : isLower x = false := by
        cases hl : isLower x with
        | false => rfl
        | true => simp [isUpper_of_isLower hl] at hx
      have hboundary : isAcronym u (v :: run ++ b :: c :: rest) = false := by
        match run with
        | [] => simp [isAcronym, hsmall hb]
        | w :: run => simp [isAcronym, hsmall (hrest w (.tail _ (.head _)))]
      rw [List.cons_append, spacedAt_of_neg hboundary, ih (List.cons_ne_nil _ _) hrest]
      rfl

theorem isAcronym_of_none (h : acronym (a :: cs) = none) : isAcronym a cs = false := by
  match cs with
  | [] => rfl
  | [_] => rfl
  | b :: c :: cs =>
    cases hboundary : isAcronym a (b :: c :: cs) with
    | false => rfl
    | true =>
      simp only [isAcronym, Bool.and_eq_true] at hboundary
      obtain ⟨⟨ha, hb⟩, hc⟩ := hboundary
      have hnone := Text.behind_of_greedy ha (Option.map_eq_none_iff.1 h)
      simp [capitalized, hb, hc] at hnone

theorem replaceAll_acronym (cs : List Char) :
    Text.replaceAll acronym cs = spacedAt isAcronym cs := by
  -- what was found is passed over, and so it is the length that goes down
  induction hn : cs.length using Nat.strongRecOn generalizing cs with
  | ind n ih =>
    cases cs with
    | nil => rfl
    | cons a cs =>
      cases hfound : acronym (a :: cs) with
      | none =>
        rw [Text.replaceAll_of_none hfound, spacedAt_of_neg (isAcronym_of_none hfound),
          ih cs.length (by simp [← hn]) cs rfl]
      | some found =>
        obtain ⟨⟨run, word, rest⟩, hgreedy, rfl⟩ := Option.map_eq_some_iff.1 hfound
        obtain ⟨_, heq, hne, hrun, hword⟩ := Text.exists_of_greedy hgreedy
        obtain ⟨b, c, rfl, rfl, hb, hc⟩ := exists_of_capitalized hword
        obtain ⟨u, run, rfl⟩ := List.exists_cons_of_ne_nil hne
        have hcs : a = u ∧ cs = (run ++ [b, c]) ++ rest := by simpa using heq
        obtain ⟨rfl, rfl⟩ := hcs
        rw [Text.replaceAll_of_some hfound, heq, spacedAt_run hne hrun hb hc,
          ih rest.length (by simp [← hn]; omega) rest rfl]
        simp

-- What the first pass puts in is no boundary for the second one, and hides none.
theorem spacedAt_spacedAt (cs : List Char) :
    spacedAt isAcronym (spacedAt isCamel cs) = spacedAt isBoundary cs := by
  induction cs with
  | nil => rfl
  | cons a cs ih =>
    cases hcamel : isCamel a cs with
    | true =>
      rw [spacedAt_of_pos hcamel, spacedAt_of_neg (isAcronym_of_next (by decide)),
        spacedAt_of_neg (isAcronym_of_not_upper (by decide)), ih,
        spacedAt_of_pos (by rw [isBoundary, hcamel, Bool.true_or])]
    | false =>
      have hsame : isAcronym a (spacedAt isCamel cs) = isAcronym a cs := by
        match cs with
        | [] => rfl
        | b :: cs =>
          cases hb : isUpper b with
          | false =>
            obtain ⟨ds, hd⟩ := exists_spacedAt_cons (p := isCamel) b cs
            rw [hd, isAcronym_of_next hb, isAcronym_of_next hb]
          | true =>
            rw [spacedAt_of_neg (isCamel_of_upper hb)]
            match cs with
            | [] => rfl
            | c :: cs =>
              obtain ⟨ds, hd⟩ := exists_spacedAt_cons (p := isCamel) c cs
              rw [hd]
              rfl
      have hboundary : isBoundary a cs = isAcronym a cs := by rw [isBoundary, hcamel, Bool.false_or]
      cases hacronym : isAcronym a cs with
      | true =>
        rw [spacedAt_of_neg hcamel, spacedAt_of_pos (hsame.trans hacronym), ih,
          spacedAt_of_pos (hboundary.trans hacronym)]
      | false =>
        rw [spacedAt_of_neg hcamel, spacedAt_of_neg (hsame.trans hacronym), ih,
          spacedAt_of_neg (hboundary.trans hacronym)]

/-! ### Separators -/

theorem isBoundary_of_isSeparator (h : isSeparator a = true) : isBoundary a cs = false := by
  have heq (d : Char) : a = d ↔ a.toNat = d.toNat := ⟨congrArg _, Char.toNat_inj.1⟩
  have hle (c d : Char) : c ≤ d ↔ c.toNat ≤ d.toNat := Iff.rfl
  have hnot : isLower a = false ∧ isDigit a = false ∧ isUpper a = false := by
    simp only [isSeparator, Text.isBlank, heq, Bool.or_eq_true, Bool.and_eq_true,
      decide_eq_true_eq, Char.reduceToNat] at h
    simp only [isLower, isDigit, isUpper, hle, Bool.and_eq_false_iff, decide_eq_false_iff_not,
      Char.reduceToNat]
    omega
  obtain ⟨hlower, hdigit, hupper⟩ := hnot
  rw [isBoundary, isAcronym_of_not_upper hupper, Bool.or_false]
  cases cs with
  | nil => rfl
  | cons b cs => simp [isCamel, hlower, hdigit]

theorem pieces_eq (cs : List Char) : pieces cs = Text.cut isSeparator (spacedAt isBoundary cs) := by
  induction cs with
  | nil => rfl
  | cons a cs ih =>
    rw [pieces]
    split
    case isTrue ha =>
      rw [spacedAt_of_neg (isBoundary_of_isSeparator ha), Text.cut, if_pos ha, ih]
    case isFalse ha =>
      split
      case isTrue hboundary =>
        have hspace : isSeparator ' ' = true := by decide
        rw [spacedAt_of_pos hboundary, Text.cut, if_neg ha, Text.cut, if_pos hspace, ih]
      case isFalse hboundary =>
        rw [spacedAt_of_neg (by simpa using hboundary), ih]
        exact (if_neg ha).symm

-- The nonempty stretches between separators.
def stretches (cs : List Char) : List (List Char) :=
  (Text.cut isSeparator cs).filter (!·.isEmpty)

theorem words_eq (key : List Char) : words key = stretches (spacedAt isBoundary key) := by
  rw [words, pieces_eq, stretches]

def AreWords (ws : List (List Char)) : Prop :=
  ∀ w ∈ ws, w ≠ [] ∧ ∀ c ∈ w, isSeparator c = false

theorem areWords_stretches (cs : List Char) : AreWords (stretches cs) := by
  intro w hw
  obtain ⟨hcut, hne⟩ := List.mem_filter.1 hw
  exact ⟨by simpa using hne, Text.not_mem_of_mem_cut hcut⟩

theorem stretches_of_separator (hc : isSeparator c = true) :
    stretches (c :: cs) = stretches cs := by
  rw [stretches, Text.cut, if_pos hc]
  rfl

theorem stretches_dropWhile (cs : List Char) :
    stretches (cs.dropWhile isSeparator) = stretches cs := by
  induction cs with
  | nil => rfl
  | cons c cs ih =>
    cases hc : isSeparator c with
    | true => rw [List.dropWhile_cons_of_pos hc, ih, stretches_of_separator hc]
    | false => rw [List.dropWhile_cons_of_neg (by simp [hc])]

-- A stretch ends at the next separator.
theorem stretches_of_next (ha : isSeparator a = false) (hc : isSeparator c = true) :
    stretches (a :: c :: cs) = [a] :: stretches cs := by
  rw [stretches, Text.cut, if_neg (by simp [ha]), Text.cut, if_pos hc]
  rfl

theorem exists_stretches (hc : isSeparator c = false) (cs : List Char) :
    ∃ w ws, stretches (c :: cs) = (c :: w) :: ws ∧
      ∀ a, isSeparator a = false → stretches (a :: c :: cs) = (a :: c :: w) :: ws := by
  cases hcut : Text.cut isSeparator cs with
  | nil => exact absurd hcut (Text.cut_ne_nil _ cs)
  | cons w ws =>
    have hcons : Text.cut isSeparator (c :: cs) = (c :: w) :: ws := by
      rw [Text.cut, if_neg (by simp [hc]), hcut]
    refine ⟨w, ws.filter (!·.isEmpty), by rw [stretches, hcons]; rfl, fun a ha => ?_⟩
    rw [stretches, Text.cut, if_neg (by simp [ha]), hcons]
    rfl

/-! ### The last pass -/

theorem replaceAll_of_separator (hc : isSeparator c = true) (cs : List Char) :
    Text.replaceAll separators (c :: cs) =
      ' ' :: Text.replaceAll separators (cs.dropWhile isSeparator) := by
  have hfound : separators (c :: (cs.takeWhile isSeparator ++ cs.dropWhile isSeparator)) =
      some ([' '], cs.dropWhile isSeparator) := by
    rw [List.takeWhile_append_dropWhile, separators, Text.greedy_some hc, Option.map_some]
  have hreplaced := Text.replaceAll_of_some hfound
  rwa [List.takeWhile_append_dropWhile] at hreplaced

theorem replaceAll_of_letter (hc : isSeparator c = false) (cs : List Char) :
    Text.replaceAll separators (c :: cs) = c :: Text.replaceAll separators cs :=
  Text.replaceAll_of_none (by rw [separators, Text.greedy_of_not hc, Option.map_none])

theorem isSeparator_of_head? (cs : List Char) :
    ∀ c ∈ (cs.dropWhile isSeparator).head?, isSeparator c = false := by
  intro c hc
  have hnot := List.head?_dropWhile_not isSeparator cs
  rw [hc] at hnot
  simpa using hnot

-- Behind the words nothing but a space is left of the separators.
theorem exists_after (cs : List Char) (h : ∀ c ∈ cs.head?, isSeparator c = false) :
    ∃ after, (∀ c ∈ after, Text.isBlank c = true) ∧
      Text.replaceAll separators cs = Text.join [' '] (stretches cs) ++ after := by
  induction hn : cs.length using Nat.strongRecOn generalizing cs with
  | ind n ih =>
    obtain _ | ⟨c, _ | ⟨d, ds⟩⟩ := cs
    case nil => exact ⟨[], nofun, rfl⟩
    case cons.nil =>
      have hc : isSeparator c = false := h c rfl
      refine ⟨[], nofun, ?_⟩
      rw [replaceAll_of_letter hc, stretches, Text.cut, if_neg (by simp [hc])]
      rfl
    case cons.cons =>
      have hc : isSeparator c = false := h c rfl
      rw [replaceAll_of_letter hc]
      cases hd : isSeparator d with
      | false =>
        obtain ⟨after, hblank, heq⟩ := ih _ (by simp [← hn]) (d :: ds)
          (fun x hx => Option.some.inj hx ▸ hd) rfl
        obtain ⟨w, ws, hds, hcds⟩ := exists_stretches hd ds
        refine ⟨after, hblank, ?_⟩
        rw [heq, hds, hcds c hc, Text.join_cons _ c, List.cons_append]
      | true =>
        have hlength : (ds.dropWhile isSeparator).length ≤ ds.length :=
          (List.dropWhile_sublist _).length_le
        have hhead := isSeparator_of_head? ds
        obtain ⟨after, hblank, heq⟩ := ih _ (by simp [← hn]; omega) _ hhead rfl
        rw [replaceAll_of_separator hd, stretches_of_next hc hd, ← stretches_dropWhile ds]
        cases hrest : ds.dropWhile isSeparator with
        | nil => exact ⟨[' '], by simp [Text.isBlank], rfl⟩
        | cons x xs =>
          rw [hrest] at heq hhead
          obtain ⟨w, ws, hstretches, -⟩ := exists_stretches (hhead x rfl) xs
          refine ⟨after, hblank, ?_⟩
          rw [heq, hstretches, Text.join_cons_cons]
          rfl

-- Words that are joined begin and end with what is no separator.
theorem exists_ends (hne : ws ≠ []) (hws : AreWords ws) :
    ∃ a z, [a] <+: Text.join [' '] ws ∧ [z] <:+ Text.join [' '] ws ∧
      isSeparator a = false ∧ isSeparator z = false := by
  induction ws with
  | nil => exact absurd rfl hne
  | cons w ws ih =>
    obtain ⟨hw, hseparator⟩ := hws w (.head _)
    obtain ⟨a, t, rfl⟩ := List.exists_cons_of_ne_nil hw
    have ha : [a] <+: Text.join [' '] ((a :: t) :: ws) := ⟨_, (Text.join_cons ..).symm⟩
    cases ws with
    | nil =>
      refine ⟨a, (a :: t).getLast hw, ha, ⟨_, List.dropLast_concat_getLast hw⟩,
        hseparator a (.head _), hseparator _ (List.getLast_mem hw)⟩
    | cons v ws =>
      obtain ⟨-, z, -, hz, -, hz'⟩ := ih (List.cons_ne_nil _ _) fun w hw => hws w (.tail _ hw)
      exact ⟨a, z, ha, hz.trans ⟨_, (Text.join_cons_cons ..).symm⟩, hseparator a (.head _), hz'⟩

theorem isBlank_of_isSeparator (h : isSeparator c = false) : Text.isBlank c = false := by
  simp only [isSeparator, Bool.or_eq_false_iff] at h
  exact h.2

theorem trim_replaceAll (cs : List Char) :
    Text.trim (Text.replaceAll separators cs) = Text.join [' '] (stretches cs) := by
  have htrim (cs : List Char) (h : ∀ c ∈ cs.head?, isSeparator c = false) :
      Text.trim (Text.replaceAll separators cs) = Text.join [' '] (stretches cs) := by
    obtain ⟨after, hblank, heq⟩ := exists_after cs h
    rw [heq]
    match hs : stretches cs with
    | [] =>
      have hnil : Text.trimStart after = [] := by
        rw [← List.append_nil after, Text.trimStart, List.dropWhile_append_of_pos hblank]
        rfl
      rw [Text.join, List.nil_append, Text.trim, hnil]
      rfl
    | w :: ws =>
      obtain ⟨a, z, ha, hz, ha', hz'⟩ := exists_ends (List.cons_ne_nil w ws)
        (hs ▸ areWords_stretches cs)
      exact Text.trim_append (List.forall_mem_nil _) hblank ha hz
        ⟨isBlank_of_isSeparator ha', isBlank_of_isSeparator hz'⟩
  cases cs with
  | nil => rfl
  | cons c cs =>
    cases hc : isSeparator c with
    | false => exact htrim _ fun x hx => Option.some.inj hx ▸ hc
    | true =>
      rw [replaceAll_of_separator hc, Text.trim, Text.trimStart_cons_of_blank _ (by decide),
        stretches_of_separator hc, ← stretches_dropWhile cs]
      exact htrim _ (isSeparator_of_head? cs)

-- What the passes leave of a key are its words, one space apart.
theorem trim_spaced (key : List Char) :
    Text.trim (spaced key) = Text.join [' '] (words key) := by
  rw [spaced, replaceAll_camel, replaceAll_acronym, spacedAt_spacedAt, trim_replaceAll, words_eq]

end Label

end AccessReport
