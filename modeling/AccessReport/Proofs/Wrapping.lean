import AccessReport.Proofs.Cutting
import AccessReport.Text.Wrap
import Mathlib.Data.List.Chain
import Mathlib.Data.List.TakeWhile
import Mathlib.Tactic.ByContra

namespace AccessReport
namespace Wrap

variable {room : Nat} {line word text : List Char} {ps : List (List Char)} {n : Nat}

theorem length_le_of_mem_pieces (hr : 0 < room) : ∀ p ∈ pieces room word, p.length ≤ room := by
  induction word using pieces.induct room with
  | case1 word h ih =>
    rw [pieces, dif_pos h]
    intro p hp
    rcases List.mem_cons.1 hp with rfl | hp
    · exact List.length_take_le ..
    · exact ih p hp
  | case2 word h =>
    rw [pieces, dif_neg h]
    intro p hp
    rw [List.mem_singleton.1 hp]
    omega

theorem ne_nil_of_mem_pieces (hw : word ≠ []) : ∀ p ∈ pieces room word, p ≠ [] := by
  induction word using pieces.induct room with
  | case1 word h ih =>
    rw [pieces, dif_pos h]
    intro p hp
    rcases List.mem_cons.1 hp with rfl | hp
    · exact List.ne_nil_of_length_pos (by rw [List.length_take]; omega)
    · exact ih (List.ne_nil_of_length_pos (by rw [List.length_drop]; omega)) p hp
  | case2 word h =>
    rw [pieces, dif_neg h]
    intro p hp
    rwa [List.mem_singleton.1 hp]

theorem length_le_of_mem_fill (hl : line.length ≤ room) (hp : ∀ p ∈ ps, p.length ≤ room) :
    ∀ l ∈ fill room line ps, l.length ≤ room := by
  induction ps generalizing line with
  | nil => simpa [fill] using hl
  | cons p ps ih =>
    have hps := fun q hq => hp q (.tail _ hq)
    rw [fill]
    split
    · exact ih (hp p (.head _)) hps
    · split
      · exact ih (by simp; omega) hps
      · intro l hl'
        rcases List.mem_cons.1 hl' with rfl | hl'
        · exact hl
        · exact ih (hp p (.head _)) hps l hl'

theorem ne_nil_of_mem_fill (hp : ∀ p ∈ ps, p ≠ []) (hne : line ≠ [] ∨ ps ≠ []) :
    ∀ l ∈ fill room line ps, l ≠ [] := by
  induction ps generalizing line with
  | nil => simpa [fill] using hne
  | cons p ps ih =>
    have hps := fun q hq => hp q (.tail _ hq)
    have hpne := hp p (.head _)
    rw [fill]
    split
    · exact ih hps (.inl hpne)
    · next hline =>
      split
      · exact ih hps (.inl (by simp))
      · intro l hl'
        rcases List.mem_cons.1 hl' with rfl | hl'
        · simpa using hline
        · exact ih hps (.inl hpne) l hl'

theorem length_le_of_mem_fill_pieces (hr : 0 < room) (words : List (List Char)) :
    ∀ l ∈ fill room [] (words.flatMap (pieces room)), l.length ≤ room := by
  refine length_le_of_mem_fill (Nat.zero_le _) fun p hp => ?_
  obtain ⟨word, -, hp⟩ := List.mem_flatMap.1 hp
  exact length_le_of_mem_pieces hr p hp

theorem room_pos (text : List Char) (n : Nat) : 0 < Wrap.room text n :=
  Nat.le_max_right ..

-- A line holds what fits on it, or one character after its indentation.
theorem length_le_of_mem_wrap : ∀ l ∈ wrap text n, l.length ≤ max n ((indent text).length + 1) := by
  unfold wrap
  split
  case isTrue h =>
    intro l hl
    rw [List.mem_singleton.1 hl]
    exact Nat.le_trans h (Nat.le_max_left ..)
  case isFalse h =>
    intro l hl
    obtain ⟨m, hm, rfl⟩ := List.mem_map.1 hl
    have := length_le_of_mem_fill_pieces (room_pos text n) _ m hm
    rw [List.length_append]
    unfold Wrap.room at this
    omega

theorem pieces_ne_nil (room : Nat) (word : List Char) : pieces room word ≠ [] := by
  unfold pieces
  split <;> simp

-- There is something on every line.
theorem ne_nil_of_mem_fill_words {words : List (List Char)} (hne : words ≠ [])
    (hw : ∀ word ∈ words, word ≠ []) :
    ∀ l ∈ fill room [] (words.flatMap (pieces room)), l ≠ [] := by
  refine ne_nil_of_mem_fill (fun p hp => ?_) (.inr ?_)
  · obtain ⟨word, hword, hp⟩ := List.mem_flatMap.1 hp
    exact ne_nil_of_mem_pieces (hw word hword) p hp
  · obtain ⟨word, hword⟩ := List.exists_mem_of_ne_nil _ hne
    obtain ⟨p, hp⟩ := List.exists_mem_of_ne_nil _ (pieces_ne_nil room word)
    exact List.ne_nil_of_mem <| List.mem_flatMap.2 ⟨word, hword, hp⟩

-- Behind the indentation there is a word, if there is anything.
theorem words_ne_nil (h : (indent text).length < text.length) :
    Text.words (Text.trimStart text) ≠ [] := by
  have hne : Text.trimStart text ≠ [] := by
    intro hnil
    have happend : indent text ++ Text.trimStart text = text := List.takeWhile_append_dropWhile
    rw [hnil, List.append_nil] at happend
    rw [happend] at h
    omega
  have hblank := List.head_dropWhile_not Text.isBlank hne
  obtain ⟨w, hw, hc⟩ := Text.exists_mem_cut (List.head_mem hne) hblank
  refine List.ne_nil_of_mem (List.mem_filter.2 ⟨hw, ?_⟩)
  simpa using List.ne_nil_of_mem hc

-- Unless a text fits on one line, its lines fit if its indentation leaves room on them.
theorem wrap_fits_iff :
    (∀ l ∈ wrap text n, l.length ≤ n) ↔ text.length ≤ n ∨ (indent text).length < n := by
  constructor
  · intro h
    by_contra hno
    obtain ⟨hlong, hdeep⟩ := not_or.1 hno
    rw [wrap, if_neg hlong] at h
    obtain ⟨l, hl⟩ := List.exists_mem_of_ne_nil _ (fill_ne_nil (room text n) []
      ((Text.words (Text.trimStart text)).flatMap (pieces (room text n))))
    have hle := h _ (List.mem_map_of_mem hl)
    rw [List.length_append] at hle
    have hwords : Text.words (Text.trimStart text) ≠ [] := words_ne_nil (by omega)
    have hword : ∀ word ∈ Text.words (Text.trimStart text), word ≠ [] :=
      fun word hword => by simpa using List.of_mem_filter hword
    have hpos := List.length_pos_iff.2 <| ne_nil_of_mem_fill_words hwords hword l hl
    omega
  · rintro (hfits | hroom)
    · simp [wrap, hfits]
    · intro l hl
      have := length_le_of_mem_wrap l hl
      omega

/-! ### Words -/

theorem flatten_pieces (room : Nat) (word : List Char) : (pieces room word).flatten = word := by
  induction word using pieces.induct room with
  | case1 word h ih =>
    rw [pieces, dif_pos h, List.flatten_cons, ih]
    exact List.take_append_drop ..
  | case2 word h => rw [pieces, dif_neg h, List.flatten_singleton]

theorem isWord_of_mem_pieces (hw : Text.IsWord word) : ∀ p ∈ pieces room word, Text.IsWord p := by
  intro p hp
  refine ⟨ne_nil_of_mem_pieces hw.1 p hp, fun c hc => hw.2 c ?_⟩
  rw [← flatten_pieces room word]
  exact List.mem_flatten_of_mem hp hc

theorem isWord_pieces_words (room : Nat) (text : List Char) :
    ∀ p ∈ (Text.words text).flatMap (pieces room), Text.IsWord p := by
  intro p hp
  obtain ⟨word, hword, hp⟩ := List.mem_flatMap.1 hp
  exact isWord_of_mem_pieces (Text.isWord_of_mem_words hword) p hp

theorem words_push {p : List Char} (hp : Text.IsWord p) (line : List Char) :
    Text.words (line ++ ' ' :: p) = Text.words line ++ [p] := by
  rw [Text.words_append_cons line p (by decide), hp.words_eq]

-- Whatever the lines are broken at, the pieces are on them in their order.
theorem flatMap_words_fill (hp : ∀ p ∈ ps, Text.IsWord p) :
    (fill room line ps).flatMap Text.words = Text.words line ++ ps := by
  induction ps generalizing line with
  | nil => simp [fill]
  | cons p ps ih =>
    have hps := fun q hq => hp q (.tail _ hq)
    have hword := hp p (.head _)
    rw [fill]
    split
    case isTrue hline =>
      rw [ih hps, hword.words_eq, List.isEmpty_iff.1 hline, Text.words_nil]
      rfl
    case isFalse =>
      split
      · rw [ih hps, words_push hword, List.append_assoc]
        rfl
      · rw [List.flatMap_cons, ih hps, hword.words_eq]
        rfl

-- The words in front on a line stay in front.
theorem exists_fill (room : Nat) (line : List Char) (hp : ∀ p ∈ ps, Text.IsWord p) :
    ∃ first rest, fill room line ps = first :: rest ∧ Text.words line <+: Text.words first := by
  induction ps generalizing line with
  | nil => exact ⟨line, [], rfl, List.prefix_rfl⟩
  | cons p ps ih =>
    have hps := fun q hq => hp q (.tail _ hq)
    rw [fill]
    split
    case isTrue hline =>
      obtain ⟨first, rest, hfill, -⟩ := ih p hps
      refine ⟨first, rest, hfill, ?_⟩
      rw [List.isEmpty_iff.1 hline]
      exact List.nil_prefix
    case isFalse =>
      split
      · obtain ⟨first, rest, hfill, hpre⟩ := ih (line ++ ' ' :: p) hps
        rw [words_push (hp p (.head _))] at hpre
        exact ⟨first, rest, hfill, (List.prefix_append ..).trans hpre⟩
      · exact ⟨line, _, rfl, List.prefix_rfl⟩

-- There was no room on a line for the first word of the next one.
def Tight (room : Nat) (line next : List Char) : Prop :=
  room < line.length + 1 + ((Text.words next).headD []).length

theorem isChain_fill (room : Nat) (line : List Char) (hp : ∀ p ∈ ps, Text.IsWord p) :
    (fill room line ps).IsChain (Tight room) := by
  induction ps generalizing line with
  | nil => exact .singleton _
  | cons p ps ih =>
    have hps := fun q hq => hp q (.tail _ hq)
    rw [fill]
    split
    · exact ih _ hps
    · split
      · exact ih _ hps
      case isFalse hroom =>
        obtain ⟨first, rest, hfill, words, hwords⟩ := exists_fill room p hps
        have htight : Tight room line first := by
          rw [(hp p (.head _)).words_eq] at hwords
          rw [Tight, ← hwords]
          exact Nat.lt_of_not_le hroom
        have hchain := ih p hps
        rw [hfill] at hchain ⊢
        exact List.isChain_cons_cons.2 ⟨htight, hchain⟩

/-! ### All lines of a text -/

theorem indent_append_trimStart (text : List Char) : indent text ++ Text.trimStart text = text :=
  List.takeWhile_append_dropWhile

theorem words_indent_append (text rest : List Char) :
    Text.words (indent text ++ rest) = Text.words rest :=
  Text.words_append_of_blank (fun _ => List.mem_takeWhile_imp) rest

theorem words_trimStart (text : List Char) :
    Text.words (Text.trimStart text) = Text.words text := by
  rw [← words_indent_append text, indent_append_trimStart]

theorem wrap_of_lt (h : n < text.length) : wrap text n =
    (fill (Wrap.room text n) [] ((Text.words text).flatMap (pieces (Wrap.room text n)))).map
      (indent text ++ ·) := by
  rw [wrap, if_neg (Nat.not_le_of_lt h), words_trimStart]

-- What becomes of a word: it is cut where it is too long for a line, unless the whole text fits.
def cuts (text : List Char) (maxChars : Nat) (word : List Char) : List (List Char) :=
  if text.length ≤ maxChars then [word] else pieces (Wrap.room text maxChars) word

theorem cuts_of_le (h : text.length ≤ n) : cuts text n = ([·]) := by
  funext word
  rw [cuts, if_pos h]

theorem cuts_of_lt (h : n < text.length) : cuts text n = pieces (Wrap.room text n) := by
  funext word
  rw [cuts, if_neg (Nat.not_le_of_lt h)]

theorem flatten_cuts (text : List Char) (n : Nat) (word : List Char) :
    (cuts text n word).flatten = word := by
  unfold cuts
  split
  · exact List.flatten_singleton
  · exact flatten_pieces ..

-- The lines have the words of the text.
theorem flatMap_words_wrap (text : List Char) (n : Nat) :
    (wrap text n).flatMap Text.words = (Text.words text).flatMap (cuts text n) := by
  rcases Nat.lt_or_ge n text.length with hlong | hfits
  · have hwords := isWord_pieces_words (Wrap.room text n) text
    rw [wrap_of_lt hlong, cuts_of_lt hlong, List.flatMap_map]
    simp only [words_indent_append]
    exact flatMap_words_fill hwords
  · rw [wrap, if_pos hfits, cuts_of_le hfits, List.flatMap_singleton, List.flatMap_singleton']

theorem filter_flatMap_wrap (text : List Char) (n : Nat) :
    (wrap text n).flatMap (·.filter (!Text.isBlank ·)) = text.filter (!Text.isBlank ·) := by
  simp only [← Text.flatten_words]
  have flatten {f : List Char → List (List Char)} (lines : List (List Char)) :
      lines.flatMap (fun line => (f line).flatten) = (lines.flatMap f).flatten := by
    rw [← List.flatMap_id, List.flatMap_assoc]
    simp only [List.flatMap_id]
  rw [flatten, flatMap_words_wrap, ← flatten]
  simp only [flatten_cuts]
  exact List.flatMap_id

theorem indent_prefix_of_mem_wrap : ∀ line ∈ wrap text n, indent text <+: line := by
  rcases Nat.lt_or_ge n text.length with hlong | hfits
  · rw [wrap_of_lt hlong, List.forall_mem_map]
    exact fun rest _ => List.prefix_append ..
  · rw [wrap, if_pos hfits, List.forall_mem_singleton]
    exact List.takeWhile_prefix _

-- What is on the lines of a text behind its indentation.
theorem map_drop_wrap (h : n < text.length) :
    (wrap text n).map (·.drop (indent text).length) =
      fill (Wrap.room text n) [] ((Text.words text).flatMap (pieces (Wrap.room text n))) := by
  simp [wrap_of_lt h, Function.comp_def]

-- Wrapping loses nothing but blanks, keeps the indentation on each line, and breaks a line only
-- where there is no room for the next word on it.
theorem wrap_lines (text : List Char) (n : Nat) :
    let lines := wrap text n
    let leading := text.takeWhile Text.isBlank
    lines ≠ [] ∧
    lines.flatMap (·.filter (!Text.isBlank ·)) = text.filter (!Text.isBlank ·) ∧
    (∀ line ∈ lines, leading <+: line) ∧
    if text.length ≤ n then lines = [text]
    else
      let room := max 1 (n - leading.length)
      let rests := lines.map (·.drop leading.length)
      (∀ rest ∈ rests, rest.length ≤ room) ∧
      rests.IsChain fun rest next =>
        room < rest.length + 1 + ((Text.words next).headD []).length := by
  refine ⟨wrap_ne_nil text n, filter_flatMap_wrap text n, indent_prefix_of_mem_wrap, ?_⟩
  split
  case isTrue hfits => exact if_pos hfits
  case isFalse hlong =>
    have hroom : max 1 (n - (indent text).length) = Wrap.room text n := Nat.max_comm ..
    have hrests := map_drop_wrap (Nat.lt_of_not_le hlong)
    rw [indent] at hroom hrests
    simp only [hrests, hroom]
    exact ⟨length_le_of_mem_fill_pieces (room_pos text n) _,
      isChain_fill _ _ <| isWord_pieces_words _ text⟩

end Wrap
end AccessReport
