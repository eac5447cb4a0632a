import AccessReport.Content.Listing
import AccessReport.Number.Coordinate
import AccessReport.Proofs.Export
import AccessReport.Proofs.Wrapping
import AccessReport.Text.Measure

namespace AccessReport

namespace Normalized

-- No line feed, and no blank in front.
def Flush (s : String) : Prop :=
  '\n' ∉ s.toList ∧ ∀ c ∈ s.toList.head?, Text.isBlank c = false

-- Only the first character is looked at, not all there are.
instance (s : String) : Decidable (Flush s) :=
  have := Option.decidableForallMem (p := fun c => Text.isBlank c = false) s.toList.head?
  inferInstanceAs (Decidable (_ ∧ _))

-- All labels and texts are like that.
inductive Neat : Normalized → Prop
  | scalar {s : Scalar} : Flush s.display → Neat (.scalar s)
  | sequence {items : List Normalized} : (∀ t ∈ items, Neat t) → Neat (.sequence items)
  | mapping {entries : List (String × Normalized)} : (∀ e ∈ entries, Flush e.1) →
      (∀ e ∈ entries, Neat e.2) → Neat (.mapping entries)

mutual

-- The depths at which there are lines.
def levels : Normalized → Nat
  | scalar _ => 0
  | sequence items => itemLevels items
  | mapping entries => entryLevels entries

def itemLevels : List Normalized → Nat
  | [] => 0
  | t :: ts => max (levels t + 1) (itemLevels ts)

def entryLevels : List (String × Normalized) → Nat
  | [] => 0
  | (_, t) :: es => max (levels t + 1) (entryLevels es)

end

-- A line that is indented by its depth, and not empty behind that.
structure IsAt (depth : Nat) (line : String) : Prop where
  indent : Wrap.indent line.toList = List.replicate (2 * depth) ' '
  length : 2 * depth < line.toList.length
  onLine : '\n' ∉ line.toList

-- Lines at all depths from one to another, and at no others.
structure Spans (lines : List String) (first last : Nat) : Prop where
  isAt   : ∀ line ∈ lines, ∃ k, first ≤ k ∧ k < last ∧ IsAt k line
  exists_isAt : ∀ k, first ≤ k → k < last → ∃ line ∈ lines, IsAt k line

namespace Spans

variable {lines lines' : List String} {line : String} {depth first last last' : Nat}

theorem nil (depth : Nat) : Spans [] depth depth where
  isAt        := by simp
  exists_isAt := fun k hk hk' => absurd hk (by omega)

theorem append (h : Spans lines first last) (h' : Spans lines' first last') :
    Spans (lines ++ lines') first (max last last') where
  isAt := by
    intro line hline
    rcases List.mem_append.1 hline with hline | hline
    · obtain ⟨k, hk, hk', ha⟩ := h.isAt line hline
      exact ⟨k, hk, by omega, ha⟩
    · obtain ⟨k, hk, hk', ha⟩ := h'.isAt line hline
      exact ⟨k, hk, by omega, ha⟩
  exists_isAt := by
    intro k hk hk'
    rcases Nat.lt_or_ge k last with hlt | hge
    · obtain ⟨line, hline, ha⟩ := h.exists_isAt k hk hlt
      exact ⟨line, List.mem_append_left _ hline, ha⟩
    · obtain ⟨line, hline, ha⟩ := h'.exists_isAt k hk (by omega)
      exact ⟨line, List.mem_append_right _ hline, ha⟩

-- What is inside an entry is one level deeper.
theorem cons (h : Spans lines (depth + 1) last) (hl : IsAt depth line) (hlast : depth < last) :
    Spans (line :: lines) depth last where
  isAt := by
    intro l hmem
    rcases List.mem_cons.1 hmem with rfl | hmem
    · exact ⟨depth, Nat.le_refl _, hlast, hl⟩
    · obtain ⟨k, hk, hk', ha⟩ := h.isAt l hmem
      exact ⟨k, by omega, hk', ha⟩
  exists_isAt := by
    intro k hk hk'
    rcases Nat.eq_or_lt_of_le hk with rfl | hk
    · exact ⟨line, .head _, hl⟩
    · obtain ⟨l, hmem, ha⟩ := h.exists_isAt k hk hk'
      exact ⟨l, .tail _ hmem, ha⟩

end Spans

-- What is on the line of an item, or of an entry, behind its mark.
def ownText (ending : String) : Normalized → String
  | scalar s => s.display ++ ending
  | _ => ""

theorem itemLines_cons (depth : Nat) (t : Normalized) (ts : List Normalized) :
    itemLines depth (t :: ts) = (itemLine depth (t.ownText " ") :: innerLines (depth + 1) t) ++
      itemLines depth ts := by
  cases t <;> simp [itemLines, innerLines, ownText]

theorem entryLines_cons (depth : Nat) (k : String) (t : Normalized)
    (es : List (String × Normalized)) :
    entryLines depth ((k, t) :: es) =
      (entryLine depth k (t.ownText "") :: innerLines (depth + 1) t) ++ entryLines depth es := by
  cases t <;> simp [entryLines, innerLines, ownText]

theorem Neat.notMem_ownText {t : Normalized} (h : t.Neat) {ending : String}
    (he : '\n' ∉ ending.toList) : '\n' ∉ (t.ownText ending).toList := by
  cases h with
  | scalar hs => simpa [ownText, he] using hs.1
  | sequence _ => simp [ownText]
  | mapping _ _ => simp [ownText]

section Lines

variable {depth : Nat} {text key line : String}

theorem isAt_of_cons {c : Char} {cs : List Char}
    (hline : line.toList = List.replicate (2 * depth) ' ' ++ c :: cs)
    (hc : Text.isBlank c = false) (hfeed : '\n' ∉ c :: cs) : IsAt depth line where
  indent := by
    rw [hline, Wrap.indent, List.takeWhile_append_of_pos, List.takeWhile_cons_of_neg (by simp [hc]),
      List.append_nil]
    intro b hb
    rw [List.eq_of_mem_replicate hb]
    decide
  length := by
    rw [hline]
    simp
  onLine := by
    rw [hline, List.mem_append]
    rintro (hb | hb)
    · cases List.eq_of_mem_replicate hb
    · exact hfeed hb

theorem toList_pad : (pad depth).toList = List.replicate (2 * depth) ' ' :=
  String.toList_ofList ..

theorem isAt_itemLine (h : '\n' ∉ text.toList) : IsAt depth (itemLine depth text) := by
  have hline : (itemLine depth text).toList =
      List.replicate (2 * depth) ' ' ++ '-' :: ' ' :: text.toList := by
    simp [itemLine, toList_pad]
  exact isAt_of_cons hline (by decide) (by simpa using h)

theorem isAt_entryLine (hk : Flush key) (h : '\n' ∉ text.toList) :
    IsAt depth (entryLine depth key text) := by
  have hline : (entryLine depth key text).toList =
      List.replicate (2 * depth) ' ' ++ (key.toList ++ ':' :: ' ' :: text.toList) := by
    simp [entryLine, toList_pad]
  obtain ⟨hfeed, hblank⟩ := hk
  cases hkey : key.toList with
  | nil =>
    rw [hkey] at hline
    exact isAt_of_cons hline (by decide) (by simpa using h)
  | cons c cs =>
    rw [hkey] at hline hfeed hblank
    refine isAt_of_cons hline (hblank c rfl) fun hmem => ?_
    have hmem : '\n' ∈ (c :: cs) ++ ':' :: ' ' :: text.toList := hmem
    exact (List.mem_append.1 hmem).elim hfeed <| by simpa using h

end Lines

theorem spans_itemLines {items : List Normalized} (depth : Nat) (hn : ∀ t ∈ items, t.Neat)
    (hs : ∀ t ∈ items, ∀ depth, Spans (t.innerLines depth) depth (depth + t.levels)) :
    Spans (itemLines depth items) depth (depth + itemLevels items) := by
  induction items with
  | nil => exact .nil depth
  | cons t ts ih =>
    have ht := hs t (.head _) (depth + 1)
    have htext : '\n' ∉ (t.ownText " ").toList := (hn t (.head _)).notMem_ownText (by decide)
    have hr := ih (fun t ht => hn t (.tail _ ht)) fun t ht => hs t (.tail _ ht)
    have ha := (ht.cons (isAt_itemLine htext) (by omega)).append hr
    have hlast : max (depth + 1 + t.levels) (depth + itemLevels ts) =
        depth + max (t.levels + 1) (itemLevels ts) := by omega
    rw [itemLines_cons, itemLevels, ← hlast]
    exact ha

theorem spans_entryLines {entries : List (String × Normalized)} (depth : Nat)
    (hk : ∀ e ∈ entries, Flush e.1) (hn : ∀ e ∈ entries, e.2.Neat)
    (hs : ∀ e ∈ entries, ∀ depth, Spans (e.2.innerLines depth) depth (depth + e.2.levels)) :
    Spans (entryLines depth entries) depth (depth + entryLevels entries) := by
  induction entries with
  | nil => exact .nil depth
  | cons e es ih =>
    have ht := hs e (.head _) (depth + 1)
    have htext : '\n' ∉ (e.2.ownText "").toList := (hn e (.head _)).notMem_ownText (by decide)
    have hr := ih (fun e he => hk e (.tail _ he)) (fun e he => hn e (.tail _ he))
      fun e he => hs e (.tail _ he)
    have ha := (ht.cons (isAt_entryLine (hk e (.head _)) htext) (by omega)).append hr
    have hlast : max (depth + 1 + e.2.levels) (depth + entryLevels es) =
        depth + max (e.2.levels + 1) (entryLevels es) := by omega
    rw [entryLines_cons, entryLevels, ← hlast]
    exact ha

-- The lines inside a tree are indented by how deep they are in it.
theorem Neat.spans {t : Normalized} (h : t.Neat) :
    ∀ depth, Spans (t.innerLines depth) depth (depth + t.levels) := by
  induction h with
  | scalar _ => exact fun depth => .nil depth
  | sequence hn ih => exact fun depth => spans_itemLines depth hn ih
  | mapping hk hn ih => exact fun depth => spans_entryLines depth hk hn ih

/-! ### All lines of a listing -/

theorem IsAt.fits_iff {depth n : Nat} {line : String} (h : IsAt depth line) :
    (∀ l ∈ Wrap.wrap line.toList n, l.length ≤ n) ↔ 2 * depth < n := by
  have hlength := h.length
  rw [Wrap.wrap_fits_iff, h.indent, List.length_replicate]
  omega

theorem toList_listing (t : Normalized) :
    t.listing.toList = Text.join ['\n'] (t.listingLines.map String.toList) := by
  rw [listing, String.toList_intercalate, Text.join_eq_intercalate]
  rfl

theorem lines_listing {t : Normalized} (hne : t.listingLines ≠ [])
    (h : ∀ line ∈ t.listingLines, '\n' ∉ line.toList) :
    Text.lines t.listing.toList = t.listingLines.map String.toList := by
  rw [toList_listing, Text.lines, Text.cut_join (by simpa using hne) _ (by simp)]
  simp only [List.mem_map]
  rintro _ ⟨line, hline, rfl⟩ c hc
  exact decide_eq_false fun hfeed => h line hline (hfeed ▸ hc)

variable {t : Normalized} {n : Nat}

-- A text on its own is not indented.
theorem fits_of_scalar {s : Scalar} (h : Flush s.display) (hn : 0 < n) :
    ∀ line ∈ Text.lines (scalar s).listing.toList, ∀ l ∈ Wrap.wrap line n, l.length ≤ n := by
  have hlines : Text.lines (scalar s).listing.toList = [s.display.toList] :=
    lines_listing (List.cons_ne_nil _ _) <| by simpa [listingLines] using h.1
  have hindent : Wrap.indent s.display.toList = [] := by
    cases hs : s.display.toList with
    | nil => rfl
    | cons c cs => exact List.takeWhile_cons_of_neg <| by simp [h.2 c (by rw [hs]; rfl)]
  rw [hlines]
  rintro line hline
  rw [List.mem_singleton.1 hline]
  exact Wrap.wrap_fits_iff.2 <| .inr <| by rwa [hindent]

theorem Spans.fits_iff (h : Spans t.listingLines 0 t.levels) (hn : 0 < n) :
    (∀ line ∈ Text.lines t.listing.toList, ∀ l ∈ Wrap.wrap line n, l.length ≤ n) ↔
      2 * (t.levels - 1) < n := by
  rcases Nat.eq_zero_or_pos t.levels with hzero | hpos
  · have hnil : t.listingLines = [] := List.eq_nil_iff_forall_not_mem.2 fun line hline => by
      obtain ⟨k, -, hk, -⟩ := h.isAt line hline
      omega
    have hlines : Text.lines t.listing.toList = [[]] := by
      rw [listing, hnil]
      rfl
    rw [hlines]
    simp [Wrap.wrap, hzero, hn]
  · obtain ⟨last, hlast, ha⟩ := h.exists_isAt (t.levels - 1) (Nat.zero_le _) (by omega)
    have hlines := lines_listing (List.ne_nil_of_mem hlast) fun line hline => by
      obtain ⟨_, -, -, hl⟩ := h.isAt line hline
      exact hl.onLine
    rw [hlines, List.forall_mem_map]
    constructor
    · exact fun hfits => ha.fits_iff.1 <| hfits last hlast
    · intro hdeep line hline
      obtain ⟨k, -, hk, hl⟩ := h.isAt line hline
      exact hl.fits_iff.2 <| by omega

-- The lines of a listing fit if it is not nested too deeply.
theorem Neat.fits_iff (h : t.Neat) (hn : 0 < n) :
    (∀ line ∈ Text.lines t.listing.toList, ∀ l ∈ Wrap.wrap line n, l.length ≤ n) ↔
      2 * (t.levels - 1) < n := by
  have hs := h.spans 0
  rw [Nat.zero_add] at hs
  cases h with
  | scalar hd => exact iff_of_true (fits_of_scalar hd hn) (by simpa [levels] using hn)
  | sequence _ => exact Spans.fits_iff (t := .sequence _) hs hn
  | mapping _ _ => exact Spans.fits_iff (t := .mapping _) hs hn

section Measured

variable {α : Type} [Coordinate α]

-- A line of a listing is laid out in lines that are not too long, unless it is too long itself and
-- its indentation takes the whole of a line; then one character comes after the indentation.
theorem listing_line_length (t : Normalized) (width size : α) :
    let n := Measure.charsPerLine width size
    (∀ line ∈ Text.lines t.listing.toList,
      ((∀ l ∈ Wrap.wrap line n, l.length ≤ n) ↔
        line.length ≤ n ∨ (line.takeWhile Text.isBlank).length < n) ∧
      ∀ l ∈ Wrap.wrap line n, l.length ≤ max n ((line.takeWhile Text.isBlank).length + 1)) ∧
    (t.Neat → ((∀ line ∈ Text.lines t.listing.toList, ∀ l ∈ Wrap.wrap line n, l.length ≤ n) ↔
      2 * (t.levels - 1) < n)) := by
  intro n
  have hn : 0 < n := Nat.lt_of_lt_of_le (by decide) (Nat.le_max_right ..)
  exact ⟨fun line _ => ⟨Wrap.wrap_fits_iff, Wrap.length_le_of_mem_wrap⟩, fun h => h.fits_iff hn⟩

end Measured

/-! ### One entry in another -/

def nest : Nat → Content
  | 0 => .scalar (.text "x")
  | n + 1 => .mapping [("a", nest n)]

theorem normalize_nest_succ (n : Nat) :
    (nest (n + 1)).normalize = mapping [("A", (nest n).normalize)] := by
  have hlabel : Label.humanize "a" = "A" := by decide +kernel
  rw [← hlabel]
  rfl

theorem neat_nest (n : Nat) : (nest n).normalize.Neat := by
  induction n with
  | zero => exact .scalar <| by decide +kernel
  | succ n ih =>
    rw [normalize_nest_succ]
    refine .mapping ?_ ?_ <;> simp only [List.forall_mem_singleton]
    · decide +kernel
    · exact ih

theorem levels_nest (n : Nat) : (nest n).normalize.levels = n := by
  induction n with
  | zero => decide +kernel
  | succ n ih =>
    rw [normalize_nest_succ]
    simp [levels, entryLevels, ih]

-- Five levels are one too many for a line of eight characters.
theorem listing_line_too_long :
    ¬∀ (content : Option Content) (width size : Float32),
      let n := Measure.charsPerLine width size
      ∀ line ∈ Text.lines (Content.normalize? content).listing.toList,
        ∀ l ∈ Wrap.wrap line n, l.length ≤ n := by
  intro h
  have hdeep := h (some (nest 5)) 40 10
  revert hdeep
  decide +kernel

theorem listing_line_length_nest :
    (nest 5).normalize.Neat ∧ Measure.charsPerLine (40 : Float32) 10 = 8 ∧
    (¬∀ line ∈ Text.lines (nest 5).normalize.listing.toList,
      ∀ l ∈ Wrap.wrap line (Measure.charsPerLine (40 : Float32) 10), l.length ≤ 8) ∧
    Measure.charsPerLine (45 : Float32) 10 = 9 ∧
    ∀ line ∈ Text.lines (nest 5).normalize.listing.toList,
      ∀ l ∈ Wrap.wrap line (Measure.charsPerLine (45 : Float32) 10), l.length ≤ 9 := by
  have hnarrow : Measure.charsPerLine (40 : Float32) 10 = 8 := by decide +kernel
  have hwide : Measure.charsPerLine (45 : Float32) 10 = 9 := by decide +kernel
  have h := (listing_line_length (nest 5).normalize (40 : Float32) 10).2 (neat_nest 5)
  have h' := (listing_line_length (nest 5).normalize (45 : Float32) 10).2 (neat_nest 5)
  simp only [hnarrow, hwide, levels_nest] at h h' ⊢
  exact ⟨neat_nest 5, trivial, fun hfits => absurd (h.1 hfits) (by decide), trivial,
    h'.2 (by decide)⟩

end Normalized
end AccessReport
