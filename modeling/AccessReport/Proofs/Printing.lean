import AccessReport.Proofs.Composing

namespace AccessReport

open AccessReport.Composition

namespace WinAnsi

variable {c : Char} {cs : List Char} {ps : List (List Char)}

theorem encode_append (h : Opens c) (xs ys : List Char) :
    encode (xs ++ c :: ys) = encode xs ++ encode (c :: ys) := by
  simp only [encode, normalForm_eq_composed, composed_append h, List.map_append]

theorem encode_space_cons (cs : List Char) : encode (' ' :: cs) = space :: encode cs := by
  simp only [encode, normalForm_eq_composed, composed_space_cons, List.map_cons]
  rfl

-- What is printed of some lines, no matter where on the page it stands.
def printed (lines : List (List Char)) : List UInt8 :=
  (lines.flatMap encode).filter (· ≠ space)

theorem printed_cons (line : List Char) (lines : List (List Char)) :
    printed (line :: lines) = printed [line] ++ printed lines := by
  simp [printed]

theorem printed_append (lines lines' : List (List Char)) :
    printed (lines ++ lines') = printed lines ++ printed lines' := by
  simp [printed]

theorem printed_append_cons (h : Opens c) (xs ys : List Char) :
    printed [xs ++ c :: ys] = printed [xs, c :: ys] := by
  simp [printed, encode_append h]

-- A space prints nothing, and what stands before it has nothing to do with what stands behind it.
theorem printed_append_space (xs ys : List Char) :
    printed [xs ++ ' ' :: ys] = printed [xs, ys] := by
  rw [printed_append_cons (opens_of_lt (by decide))]
  simp [printed, encode_space_cons]

theorem printed_join (ps : List (List Char)) : printed [Text.join [' '] ps] = printed ps := by
  induction ps with
  | nil => rfl
  | cons p ps ih =>
    cases ps with
    | nil => rfl
    | cons q ps =>
      rw [Text.join_cons_cons, List.append_assoc, List.singleton_append, printed_append_space,
        printed_cons, ih, ← printed_cons]

theorem printed_filter (ps : List (List Char)) : printed (ps.filter (!·.isEmpty)) = printed ps := by
  induction ps with
  | nil => rfl
  | cons p ps ih =>
    cases p with
    | nil => exact ih
    | cons c p => rw [List.filter_cons_of_pos rfl, printed_cons, ih, ← printed_cons]

theorem join_cut (h : ∀ c ∈ cs, Text.isBlank c = true → c = ' ') :
    Text.join [' '] (Text.cut Text.isBlank cs) = cs := by
  induction cs with
  | nil => rfl
  | cons c cs ih =>
    have hcs := ih fun c hc => h c (.tail _ hc)
    obtain ⟨w, ws, hcut⟩ := List.exists_cons_of_ne_nil (Text.cut_ne_nil Text.isBlank cs)
    rw [Text.cut]
    split
    case isTrue hc =>
      rw [hcut] at hcs ⊢
      rw [Text.join_cons_cons, hcs, h c (.head _) hc]
      rfl
    case isFalse =>
      rw [hcut] at hcs ⊢
      rw [Text.join_cons, hcs]

-- Where there are no blanks but spaces, a text is printed word by word.
theorem printed_words (h : ∀ c ∈ cs, Text.isBlank c = true → c = ' ') :
    printed (Text.words cs) = printed [cs] := by
  rw [Text.words, printed_filter, ← printed_join, join_cut h]

-- Pieces of a text that have nothing to do with each other.
def Apart (ps : List (List Char)) : Prop :=
  ∀ p ∈ ps.tail, ∀ c ∈ p.head?, Opens c

theorem Apart.printed_flatten (h : Apart ps) (hne : ∀ p ∈ ps, p ≠ []) :
    printed [ps.flatten] = printed ps := by
  induction ps with
  | nil => rfl
  | cons p ps ih =>
    cases ps with
    | nil => rw [List.flatten_singleton]
    | cons q ps =>
      obtain ⟨c, q, rfl⟩ := List.exists_cons_of_ne_nil <| hne _ (.tail _ (.head _))
      have hc : Opens c := h (c :: q) (.head _) c rfl
      have hrest : printed [((c :: q) :: ps).flatten] = printed ((c :: q) :: ps) :=
        ih (fun p hp => h p (.tail _ hp)) fun p hp => hne p (.tail _ hp)
      calc printed [(p :: (c :: q) :: ps).flatten]
        _ = printed [p ++ c :: (q ++ ps.flatten)] := by simp
        _ = printed [p] ++ printed [((c :: q) :: ps).flatten] := by
          rw [printed_append_cons hc, printed_cons]
          rfl
        _ = printed (p :: (c :: q) :: ps) := by rw [hrest, ← printed_cons]

theorem printed_flatMap_congr {words : List (List Char)} {f : List Char → List (List Char)}
    (h : ∀ word ∈ words, printed (f word) = printed [word]) :
    printed (words.flatMap f) = printed words := by
  induction words with
  | nil => rfl
  | cons word words ih =>
    rw [List.flatMap_cons, printed_append, h word (.head _), ih fun word hw => h word (.tail _ hw),
      ← printed_cons]

end WinAnsi

namespace Wrap

open WinAnsi

variable {room : Nat} {line text : List Char} {ps : List (List Char)}

theorem forall_mem_fill {P : Char → Prop} (hspace : P ' ') (hline : ∀ c ∈ line, P c)
    (hps : ∀ p ∈ ps, ∀ c ∈ p, P c) : ∀ l ∈ fill room line ps, ∀ c ∈ l, P c := by
  induction ps generalizing line with
  | nil => simpa [fill] using hline
  | cons p ps ih =>
    have hp := hps p (.head _)
    have hps := fun q hq => hps q (.tail _ hq)
    rw [fill]
    split
    · exact ih hp hps
    · split
      · refine ih (fun c hc => ?_) hps
        rcases List.mem_append.1 hc with hc | hc
        · exact hline c hc
        · rcases List.mem_cons.1 hc with rfl | hc
          · exact hspace
          · exact hp c hc
      · exact List.forall_mem_cons.2 ⟨hline, ih hp hps⟩

theorem ne_nil_of_mem_cuts (text : List Char) (n : Nat) {word : List Char}
    (hw : Text.IsWord word) : ∀ p ∈ cuts text n word, p ≠ [] := by
  unfold cuts
  split
  · rw [List.forall_mem_singleton]
    exact hw.1
  · exact ne_nil_of_mem_pieces hw.1

-- Wrapping brings in no blanks but spaces.
theorem eq_space_of_mem_wrap (h : ∀ c ∈ text, Text.isBlank c = true → c = ' ') (n : Nat) :
    ∀ l ∈ wrap text n, ∀ c ∈ l, Text.isBlank c = true → c = ' ' := by
  rcases Nat.lt_or_ge n text.length with hlong | hfits
  · rw [wrap_of_lt hlong, List.forall_mem_map]
    intro l hl c hc
    rcases List.mem_append.1 hc with hc | hc
    · exact h c <| (List.takeWhile_prefix _).subset hc
    · have hwords := isWord_pieces_words (Wrap.room text n) text
      refine forall_mem_fill (P := fun c => Text.isBlank c = true → c = ' ') (fun _ => rfl)
        (by simp) (fun p hp c hc hblank => ?_) l hl c hc
      rw [(hwords p hp).2 c hc] at hblank
      cases hblank
  · rw [wrap, if_pos hfits, List.forall_mem_singleton]
    exact h

-- What is printed of a wrapped text is what is printed of its words as they are cut; nothing is
-- changed where no cut falls in front of a mark, or of another character that is put together with
-- what it follows.
theorem wrap_printed (h : ∀ c ∈ text, Text.isBlank c = true → c = ' ') (n : Nat) :
    printed (wrap text n) = printed ((Text.words text).flatMap (cuts text n)) ∧
    printed [text] = printed (Text.words text) ∧
    ((∀ word ∈ Text.words text, Apart (cuts text n word)) →
      printed (wrap text n) = printed [text]) := by
  have hlines : printed (wrap text n) = printed ((Text.words text).flatMap (cuts text n)) := by
    rw [← flatMap_words_wrap]
    refine (printed_flatMap_congr fun line hline => printed_words ?_).symm
    exact eq_space_of_mem_wrap h n line hline
  refine ⟨hlines, (printed_words h).symm, fun hapart => ?_⟩
  rw [hlines, ← printed_words h]
  refine printed_flatMap_congr fun word hword => ?_
  have hne := ne_nil_of_mem_cuts text n (Text.isWord_of_mem_words hword)
  rw [← (hapart word hword).printed_flatten hne, flatten_cuts]

-- A word that ends in a letter and an accent of its own.
def communique : List Char :=
  "Communique\u0301".toList

-- On lines of ten characters the accent comes alone, on lines of eight it does not.
theorem wrap_printed_communique :
    (∀ c ∈ communique, Text.isBlank c = true → c = ' ') ∧
    printed (wrap communique 10) = printed ["Communique".toList, ['\u0301']] ∧
    printed [communique] = "Communiqu".toList.map byte ++ [0xE9] ∧
    printed (wrap communique 10) ≠ printed [communique] ∧
    printed (wrap communique 8) = printed [communique] := by
  have hnone : communique.all (!Text.isBlank ·) = true := by decide +kernel
  have hblank : ∀ c ∈ communique, Text.isBlank c = true → c = ' ' := by
    intro c hc hb
    have hn := List.all_eq_true.1 hnone c hc
    rw [hb] at hn
    cases hn
  have hwords : Text.words communique = [communique] := by decide +kernel
  have hten : cuts communique 10 communique = ["Communique".toList, ['\u0301']] := by
    decide +kernel
  have height : cuts communique 8 communique = ["Communiq".toList, "ue\u0301".toList] := by
    decide +kernel
  have hseen : printed [communique] = "Communiqu".toList.map byte ++ [0xE9] := by decide +kernel
  have hcut := (wrap_printed hblank 10).1
  have hkeep := (wrap_printed hblank 8).2.2
  simp only [hwords, List.flatMap_singleton, hten, List.forall_mem_singleton, height] at hcut hkeep
  refine ⟨hblank, hcut, hseen, ?_, hkeep ?_⟩
  · rw [hcut, hseen]
    decide +kernel
  · intro p hp c hc
    rw [List.mem_singleton.1 hp] at hc
    cases hc
    exact opens_of_lt (by decide)

end Wrap
end AccessReport
