import AccessReport.Text.Blank

namespace AccessReport

namespace Text

variable {p : Char → Bool} {w : List Char} {s : Char}

theorem cut_eq_splitOnP (cs : List Char) : cut p cs = cs.splitOnP p := by
  induction cs with
  | nil => rfl
  | cons c cs ih =>
    rw [cut, List.splitOnP_cons_eq_if_modifyHead, ih]
    cases hcs : cs.splitOnP p with
    | nil => exact absurd (ih.trans hcs) (cut_ne_nil p cs)
    | cons v vs => rfl

theorem cut_of_forall {cs : List Char} (h : ∀ c ∈ cs, p c = false) : cut p cs = [cs] := by
  rw [cut_eq_splitOnP, List.splitOnP_eq_singleton h]

theorem cut_append_cons (cs ds : List Char) (hs : p s = true) :
    cut p (cs ++ s :: ds) = cut p cs ++ cut p ds := by
  simp only [cut_eq_splitOnP, List.splitOnP_append_cons cs ds hs]

theorem join_cons_cons (separator v : List Char) (ws : List (List Char)) :
    join separator (w :: v :: ws) = w ++ separator ++ join separator (v :: ws) :=
  rfl

theorem join_eq_intercalate (separator : List Char) (ws : List (List Char)) :
    join separator ws = separator.intercalate ws := by
  induction ws with
  | nil => rfl
  | cons w ws ih =>
    cases ws with
    | nil => simp [join]
    | cons v ws => rw [join_cons_cons, ih, List.intercalate_cons_cons, List.append_assoc]

theorem join_append_cons (separator v : List Char) (ws : List (List Char)) :
    join separator ((v ++ w) :: ws) = v ++ join separator (w :: ws) := by
  cases ws with
  | nil => rfl
  | cons u ws => simp [join_cons_cons]

theorem join_cons (separator : List Char) (c : Char) (ws : List (List Char)) :
    join separator ((c :: w) :: ws) = c :: join separator (w :: ws) :=
  join_append_cons separator [c] ws

theorem join_concat (separator : List Char) {ws : List (List Char)} (hne : ws ≠ [])
    (w : List Char) : join separator (ws ++ [w]) = join separator ws ++ separator ++ w := by
  induction ws with
  | nil => exact absurd rfl hne
  | cons u ws ih =>
    cases ws with
    | nil => rfl
    | cons v ws =>
      have hrest := ih (List.cons_ne_nil _ _)
      rw [List.cons_append] at hrest
      rw [List.cons_append, List.cons_append, join_cons_cons, join_cons_cons, hrest]
      simp

theorem mem_join {separator : List Char} {ws : List (List Char)} {c : Char}
    (h : c ∈ join separator ws) : c ∈ separator ∨ ∃ w ∈ ws, c ∈ w := by
  induction ws with
  | nil => cases h
  | cons w ws ih =>
    cases ws with
    | nil => exact .inr ⟨w, .head _, h⟩
    | cons v ws =>
      rw [join_cons_cons, List.append_assoc, List.mem_append, List.mem_append] at h
      obtain h | h | h := h
      · exact .inr ⟨w, .head _, h⟩
      · exact .inl h
      · exact (ih h).imp id fun ⟨u, hu, hc⟩ => ⟨u, .tail _ hu, hc⟩

-- What no cut is made at is in one of the stretches.
theorem exists_mem_cut {cs : List Char} {c : Char} (h : c ∈ cs) (hc : p c = false) :
    ∃ w ∈ cut p cs, c ∈ w := by
  induction cs with
  | nil => cases h
  | cons d cs ih =>
    rw [cut]
    split
    case isTrue hd =>
      cases h with
      | head => simp [hc] at hd
      | tail _ h =>
        obtain ⟨w, hw, hcw⟩ := ih h
        exact ⟨w, .tail _ hw, hcw⟩
    case isFalse =>
      cases hcut : cut p cs with
      | nil => exact absurd hcut (cut_ne_nil p cs)
      | cons v vs =>
        cases h with
        | head => exact ⟨_, .head _, .head _⟩
        | tail _ h =>
          obtain ⟨w, hw, hcw⟩ := ih h
          cases hcut ▸ hw with
          | head => exact ⟨_, .head _, .tail _ hcw⟩
          | tail _ hw => exact ⟨w, .tail _ hw, hcw⟩

-- Cutting what was joined cuts each of the parts.
theorem cut_join_eq_flatMap {ws : List (List Char)} (hne : ws ≠ []) (hs : p s = true) :
    cut p (join [s] ws) = ws.flatMap (cut p) := by
  induction ws with
  | nil => exact absurd rfl hne
  | cons w ws ih =>
    cases ws with
    | nil => rw [join, List.flatMap_singleton]
    | cons v ws =>
      rw [join_cons_cons, List.append_assoc, List.singleton_append, cut_append_cons w _ hs,
        ih (List.cons_ne_nil _ _), ← List.flatMap_cons]

theorem cut_join {ws : List (List Char)} (hne : ws ≠ []) (h : ∀ w ∈ ws, ∀ c ∈ w, p c = false)
    (hs : p s = true) : cut p (join [s] ws) = ws := by
  rw [cut_join_eq_flatMap hne hs, List.flatMap_def,
    List.map_congr_left fun w hw => cut_of_forall (h w hw), ← List.flatMap_def,
    List.flatMap_singleton']

theorem flatten_cut (cs : List Char) : (cut p cs).flatten = cs.filter (!p ·) := by
  induction cs with
  | nil => rfl
  | cons c cs ih =>
    rw [cut]
    split
    case isTrue hc => simp [hc, ih]
    case isFalse hc =>
      cases hcut : cut p cs with
      | nil => exact absurd hcut (cut_ne_nil p cs)
      | cons w ws => simp [hc, ← ih, hcut]

/-! ### Words -/

-- Something without blanks in it.
def IsWord (w : List Char) : Prop :=
  w ≠ [] ∧ ∀ c ∈ w, isBlank c = false

theorem isWord_of_mem_words {cs : List Char} (h : w ∈ words cs) : IsWord w := by
  obtain ⟨hcut, hne⟩ := List.mem_filter.1 h
  exact ⟨by simpa using hne, not_mem_of_mem_cut hcut⟩

theorem words_nil : words [] = [] :=
  rfl

theorem IsWord.words_eq (h : IsWord w) : words w = [w] := by
  rw [words, cut_of_forall h.2]
  simp [h.1]

theorem words_append_cons (cs ds : List Char) (hs : isBlank s = true) :
    words (cs ++ s :: ds) = words cs ++ words ds := by
  rw [words, cut_append_cons cs ds hs, List.filter_append, words, words]

-- Blanks in front do not belong to a word.
theorem words_append_of_blank {cs : List Char} (h : ∀ c ∈ cs, isBlank c = true) (ds : List Char) :
    words (cs ++ ds) = words ds := by
  induction cs with
  | nil => rfl
  | cons c cs ih =>
    have hc := words_append_cons [] (cs ++ ds) (h c (.head _))
    rw [List.cons_append]
    exact hc.trans <| ih fun c hc => h c (.tail _ hc)

theorem flatten_words (cs : List Char) : (words cs).flatten = cs.filter (!isBlank ·) := by
  rw [words, List.flatten_filter_not_isEmpty, flatten_cut]

/-! ### Blanks at the ends -/

theorem trimStart_cons {c : Char} (cs : List Char) (h : isBlank c = false) :
    trimStart (c :: cs) = c :: cs :=
  List.dropWhile_cons_of_neg (by simp [h])

theorem trimStart_cons_of_blank {c : Char} (cs : List Char) (h : isBlank c = true) :
    trimStart (c :: cs) = trimStart cs :=
  List.dropWhile_cons_of_pos h

-- Blanks around a text are taken away, those in it are not.
theorem trim_append {before cs after : List Char} {a z : Char}
    (hbefore : ∀ c ∈ before, isBlank c = true) (hafter : ∀ c ∈ after, isBlank c = true)
    (ha : [a] <+: cs) (hz : [z] <:+ cs) (hblank : isBlank a = false ∧ isBlank z = false) :
    trim (before ++ cs ++ after) = cs := by
  have hstart : trimStart (before ++ cs ++ after) = cs ++ after := by
    obtain ⟨tail, rfl⟩ := ha
    rw [List.append_assoc, trimStart, List.dropWhile_append_of_pos hbefore]
    exact trimStart_cons (tail ++ after) hblank.1
  have hend : trimEnd (cs ++ after) = cs := by
    obtain ⟨front, rfl⟩ := hz
    rw [trimEnd, List.reverse_append, List.dropWhile_append_of_pos (by simpa using hafter),
      List.reverse_concat, List.dropWhile_cons_of_neg (by simp [hblank.2]), ← List.reverse_concat,
      List.reverse_reverse]
  rw [trim, hstart, hend]

theorem trim_eq_self {a z : Char} {cs : List Char} (ha : [a] <+: cs) (hz : [z] <:+ cs)
    (hblank : isBlank a = false ∧ isBlank z = false) : trim cs = cs := by
  have h := trim_append (List.forall_mem_nil _) (List.forall_mem_nil _) ha hz hblank
  rwa [List.nil_append, List.append_nil] at h

end Text

end AccessReport
