import AccessReport.Proofs.Assembly
import AccessReport.Proofs.Spacing

namespace AccessReport

open Coordinate Pdf

namespace Options

-- What the margins leave of the height of a page.
def textHeight (o : Options ℚ) : ℚ :=
  o.page.height - 2 * o.margin

-- The layout passes its check, and there is room for lines of all styles.
structure Roomy (o : Options ℚ) : Prop where
  valid   : o.validate = .ok ()
  heading : o.lineHeight .heading ≤ o.textHeight
  title   : o.lineHeight .title ≤ o.textHeight

variable {o : Options ℚ}

theorem validate_ok_iff : o.validate = .ok () ↔ o.page.isValid = true ∧
    o.fontSize < o.textWidth ∧ o.lineHeight .body < o.textHeight := by
  unfold validate
  cases o.page.isValid with
  | false => simp
  | true =>
    simp only [Bool.not_true, Bool.false_eq_true, if_false, true_and, Bool.or_eq_true,
      decide_eq_true_eq]
    rw [← not_le, ← not_le, ← not_or]
    split
    case isTrue h => exact iff_of_false nofun <| not_not_intro h
    case isFalse h => exact iff_of_true rfl h

theorem Roomy.fits (h : o.Roomy) : ∀ style, o.lineHeight style ≤ o.textHeight
  | .body    => (validate_ok_iff.1 h.valid).2.2.le
  | .heading => h.heading
  | .title   => h.title

-- What is left empty at the top of a page and the first line below it fit on the page, or the line
-- goes into the margin.
theorem margin_le_iff {style : Style} (step : ℚ) :
    o.margin ≤ max (o.top - step) o.margin - o.size style ↔
      o.size style ≤ 0 ∨ step + o.size style ≤ o.textHeight := by
  have htop : o.top = o.textHeight + o.margin := by
    unfold top textHeight
    ring
  rw [htop, le_sub_iff_add_le, le_max_iff, or_comm]
  refine or_congr ?_ ?_ <;> constructor <;> intro h <;> linarith

theorem Regular.margin_le_iff (h : o.Regular) {style : Style} (step : ℚ) :
    o.margin ≤ max (o.top - step) o.margin - o.size style ↔
      step + o.size style ≤ o.textHeight :=
  (Options.margin_le_iff step).trans <| or_iff_right (h.size style).not_ge

theorem margin_le_top (h : 0 ≤ o.textHeight) : o.margin ≤ o.top := by
  unfold textHeight at h
  unfold top
  linarith

theorem roomy_exact : exact.Roomy where
  valid   := validate_ok_iff.2 <| by decide +kernel
  heading := by decide +kernel
  title   := by decide +kernel

end Options

namespace Filling

-- Where the first thing on a page goes.
def start (c : Filling ℚ) : ℚ :=
  max (c.layout.top - c.layout.lineHeight .body * c.lead) c.layout.margin

-- The first line of a page goes below what is left empty at its top.
def Begins (c : Filling ℚ) (style : Style) (y : ℚ) : Prop :=
  c.layout.margin ≤ c.layout.top → y = c.start - c.layout.size style

-- The first line of a page begins it, and all others go where there is room for their whole height.
structure Based (c : Filling ℚ) (cursor : ℚ) : Prop where
  lead  : 0 ≤ c.lead
  blank : c.placings = [] → c.layout.margin ≤ c.layout.top → cursor = c.start
  lines : ∀ i style x y text beside, c.placings[i]? = some (.line style x y text beside) →
            if i = 0 then c.Begins style y
            else c.layout.margin + c.layout.lineHeight style ≤ y + c.layout.size style

variable {c : Filling ℚ} {p q : Placing ℚ} {cursor : ℚ}

theorem getElem?_put {i : Nat} : (c.put p).placings[i]? = some q ↔
    c.placings[i]? = some q ∨ (i = c.placings.length ∧ p = q) := by
  unfold put
  rcases Nat.lt_trichotomy i c.placings.length with hi | rfl | hi
  · simp [List.getElem?_append_left hi, hi.ne]
  · simp
  · have hlength : (c.placings ++ [p]).length ≤ i := by
      rw [List.length_append, List.length_singleton]
      exact hi
    simp [List.getElem?_eq_none hlength, List.getElem?_eq_none hi.le, hi.ne']

-- Space below space that was cut off at the margin is cut off as well.
theorem max_start_sub (htop : c.layout.margin ≤ c.layout.top) (hlead : 0 ≤ c.lead) {lines : ℚ}
    (hl : 0 ≤ lines) :
    max (c.start - c.layout.lineHeight .body * lines) c.layout.margin =
      max (c.layout.top - c.layout.lineHeight .body * (c.lead + lines)) c.layout.margin := by
  unfold start
  rw [mul_add, ← sub_sub]
  rcases le_total 0 (c.layout.lineHeight .body) with hpos | hneg
  · have hs := mul_nonneg hpos hl
    rcases le_total (c.layout.top - c.layout.lineHeight .body * c.lead) c.layout.margin with hc | hc
    · rw [max_eq_right hc, max_eq_right (by linarith), max_eq_right (by linarith)]
    · rw [max_eq_left hc]
  · have hs := mul_nonpos_of_nonpos_of_nonneg hneg hlead
    rw [max_eq_left (by linarith : c.layout.margin ≤
      c.layout.top - c.layout.lineHeight .body * c.lead)]

namespace Based

theorem empty (o : Options ℚ) : (Filling.blank o).Based o.top where
  lead  := le_rfl
  blank := by
    intro _ (h : o.margin ≤ o.top)
    simp [start, Filling.blank, zero_exact, h]
  lines := by simp [Filling.blank]

theorem put (h : c.Based cursor) {cursor' : ℚ}
    (hp : ∀ style x y text beside, p = .line style x y text beside →
      if c.placings.length = 0 then c.Begins style y
      else c.layout.margin + c.layout.lineHeight style ≤ y + c.layout.size style) :
    (c.put p).Based cursor' where
  lead  := h.lead
  blank := by simp [Filling.put]
  lines := by
    intro i style x y text beside hi
    rcases getElem?_put.1 hi with hi | ⟨rfl, rfl⟩
    · exact h.lines i style x y text beside hi
    · exact hp style x y text beside rfl

theorem line (h : c.Based cursor) {style : Style} {x : ℚ} {text : List Char}
    {beside : List (ℚ × List Char)}
    (hroom : c.placings = [] ∨ c.layout.margin ≤ cursor - c.layout.lineHeight style) :
    (c.put (.line style x (cursor - c.layout.size style) text beside)).Based
      (cursor - c.layout.lineHeight style) := by
  refine h.put ?_
  rintro _ _ _ _ _ ⟨⟩
  split
  case isTrue hempty =>
    exact fun htop => by rw [h.blank (List.eq_nil_of_length_eq_zero hempty) htop]
  case isFalse hne =>
    have := hroom.resolve_left fun hn => hne <| by simp [hn]
    linarith

theorem leave (h : c.Based cursor) {lines : ℚ} (hl : 0 ≤ lines) :
    (c.leave lines).Based
      (max (cursor - c.layout.lineHeight .body * lines) c.layout.margin) := by
  unfold Filling.leave
  split
  case isFalse hne =>
    exact ⟨h.lead, fun hn => absurd hn <| by simpa using hne, h.lines⟩
  case isTrue he =>
    have he : c.placings = [] := List.isEmpty_iff.1 he
    refine ⟨add_nonneg h.lead hl, fun _ (htop : c.layout.margin ≤ c.layout.top) => ?_,
      by simp [he]⟩
    rw [h.blank he htop, max_start_sub htop h.lead hl]
    rfl

theorem figure (h : c.Based cursor) (name : String) (matrix : Matrix ℚ) (bottom : Option ℚ)
    (cursor' : ℚ) : (c.put (.figure name matrix bottom)).Based cursor' :=
  h.put nofun

-- The first line of a page is above the bottom margin, unless too much of the page was left empty.
theorem margin_le_iff (h : c.Based cursor) {style : Style} {x y : ℚ} {text : List Char}
    {beside : List (ℚ × List Char)} (hi : c.placings[0]? = some (.line style x y text beside))
    (htop : c.layout.margin ≤ c.layout.top) :
    c.layout.margin ≤ y ↔ c.layout.size style ≤ 0 ∨
      c.layout.lineHeight .body * c.lead + c.layout.size style ≤ c.layout.textHeight := by
  have hy := h.lines 0 style x y text beside hi
  rw [if_pos rfl] at hy
  rw [hy htop, start, Options.margin_le_iff]

end Based
end Filling

namespace Document

variable {d : Document ℚ} {l : Fillings ℚ}

theorem Laid.based (h : Laid d l) : Laid.Holds Filling.Based d l := by
  refine h.page_induction ?blank ?line ?space ?figure ?figurePage
  case blank => exact Filling.Based.empty
  case line =>
    intro c cursor style x text beside hc hroom
    exact hc.line <| hroom.imp_right not_lt.1
  case space =>
    intro c cursor lines hc hn
    rw [larger_exact]
    exact hc.leave hn
  case figure => exact fun name matrix bottom hc => hc.figure name matrix ..
  case figurePage => exact fun o name matrix => (Filling.Based.empty o).figure name matrix ..

/-! ### All lines of a document -/

-- What was put on all pages.
def marks (d : Document ℚ) : List (Mark ℚ) :=
  d.leaves.flatMap Leaf.marks

-- No line of text is in the margin below, or off the page.
def Above (margin : ℚ) (marks : List (Mark ℚ)) : Prop :=
  ∀ font size x y codes, .text font size x y codes ∈ marks → margin ≤ y

def Inside (d : Document ℚ) : Prop :=
  Above d.layout.margin d.marks

section Above

variable {margin : ℚ} {marks new : List (Mark ℚ)}

theorem above_nil : Above margin [] := by
  simp [Above]

theorem above_append : Above margin (marks ++ new) ↔ Above margin marks ∧ Above margin new := by
  simp only [Above, List.mem_append]
  exact ⟨fun h => ⟨fun font size x y codes hm => h font size x y codes (.inl hm),
      fun font size x y codes hm => h font size x y codes (.inr hm)⟩,
    fun h font size x y codes hm => hm.elim (h.1 font size x y codes) (h.2 font size x y codes)⟩

theorem above_lineMark {o : Options ℚ} {style : Style} {x y : ℚ} {text : List Char} :
    Above margin [lineMark o style x y text] ↔ margin ≤ y := by
  constructor
  · exact fun h => h _ _ _ _ _ List.mem_cons_self
  · intro hy font size x' y' codes hm
    cases List.mem_singleton.1 hm
    exact hy

theorem above_rightMarks {o : Options ℚ} {style : Style} {y : ℚ} {right : String}
    (hy : margin ≤ y) : Above margin (rightMarks o style y right) := by
  unfold rightMarks
  split
  · exact above_nil
  · exact above_lineMark.2 hy

end Above

variable {e f : Document ℚ} {style : Style} {room : Prop}

theorem marks_eq : d.marks = d.finishedLeaves.flatMap Leaf.marks ++ d.page.marks := by
  cases h : d.current <;>
    simp [marks, leaves, openLeaf, h, page, OpenPage.blank, OpenPage.leaf]

theorem marks_put (new : List (Mark ℚ)) (cursor : ℚ) :
    (d.put new cursor).marks = d.marks ++ new := by
  rw [marks_eq, marks_eq, List.append_assoc]
  rfl

theorem Paged.marks_turned (h : d.Paged) (style : Style) : (d.turned style).marks = d.marks := by
  unfold turned
  split
  · rw [marks, h.leaves_closePage, marks]
  · rfl

theorem inside_put (new : List (Mark ℚ)) (cursor : ℚ) :
    (d.put new cursor).Inside ↔ d.Inside ∧ Above d.layout.margin new := by
  rw [Inside, marks_put, above_append]
  rfl

theorem Paged.inside_turned (h : d.Paged) (style : Style) :
    (d.turned style).Inside ↔ d.Inside := by
  rw [Inside, h.marks_turned, layout_turned, Inside]

-- A page with something on it has room for a line, or the next one has.
theorem Started.margin_le (h : d.Started) (ho : d.layout.Regular) (hr : d.layout.Roomy)
    (style : Style) (x : ℚ) (text : List Char) :
    d.layout.margin ≤ (d.placeLine style x text).2 := by
  have hsize := ho.size_le style
  rw [baseline_eq]
  unfold turned
  split
  case isTrue =>
    have hfits := hr.fits style
    rw [page, current_closePage]
    simp only [Option.getD_none, OpenPage.blank, layout_closePage, Options.top]
    unfold Options.textHeight at hfits
    linarith
  case isFalse hf =>
    obtain ⟨p, hp, hm⟩ := h
    simp only [isFull, hp, Option.any_some, Bool.and_eq_true, Bool.not_eq_true',
      List.isEmpty_eq_false_iff, decide_eq_true_eq, not_and, not_lt] at hf
    have := hf hm
    simp only [page, hp, Option.getD_some]
    linarith

-- A document under a layout with room for lines.
structure Open (d : Document ℚ) : Prop where
  paged   : d.Paged
  regular : d.layout.Regular
  roomy   : d.layout.Roomy

-- More lines were written, and all of them are above the margin if there was room for the first.
structure Follows (d e : Document ℚ) (room : Prop) : Prop where
  isOpen  : e.Open
  started : e.Started
  layout  : e.layout = d.layout
  inside  : e.Inside ↔ d.Inside ∧ room

theorem Open.placeLine (h : d.Open) (style : Style) (x : ℚ) (text : List Char) :
    Follows d (d.placeLine style x text).1
      (d.layout.margin ≤ (d.placeLine style x text).2) where
  isOpen  := by
    have hl : (d.placeLine style x text).1.layout = d.layout := layout_placeLine
    exact ⟨(h.paged.extends_placeLine style x text).paged, hl ▸ h.regular, hl ▸ h.roomy⟩
  started := started_placeLine
  layout  := layout_placeLine
  inside  := by
    rw [placeLine_eq]
    dsimp only
    rw [inside_put, above_lineMark, h.paged.inside_turned, layout_turned]

namespace Follows

theorem put (h : Follows d e room) {new : List (Mark ℚ)} (hn : Above e.layout.margin new)
    (cursor : ℚ) : Follows d (e.put new cursor) room where
  isOpen  := ⟨h.isOpen.paged.turn h.isOpen.paged.figures, h.isOpen.regular, h.isOpen.roomy⟩
  started := by
    obtain ⟨p, hp, hm⟩ := h.started
    exact ⟨_, rfl, by simp [page, hp, hm]⟩
  layout  := h.layout
  inside  := by rw [inside_put, eq_true hn, and_true, h.inside]

theorem margin_le (h : Follows d e room) (style : Style) (x : ℚ) (text : List Char) :
    e.layout.margin ≤ (e.placeLine style x text).2 :=
  h.started.margin_le h.isOpen.regular h.isOpen.roomy style x text

theorem placeLine (h : Follows d e room) (style : Style) (x : ℚ) (text : List Char) :
    Follows d (e.placeLine style x text).1 room := by
  have hl := h.isOpen.placeLine style x text
  refine ⟨hl.isOpen, hl.started, hl.layout.trans h.layout, ?_⟩
  rw [hl.inside, eq_true (h.margin_le style x text), and_true, h.inside]

theorem placeLines (h : Follows d e room) (style : Style) (x : Options ℚ → List Char → ℚ)
    (lines : List (List Char)) : Follows d (e.placeLines style x lines) room := by
  induction lines generalizing e with
  | nil => exact h
  | cons line lines ih => exact ih <| h.placeLine style (x e.layout line) line

theorem writeStyled (h : Follows d e room) (style : Style) (text : String) :
    Follows d (e.writeStyled style text) room := by
  rw [writeStyled_eq]
  exact h.placeLines ..

theorem writeCentered (h : Follows d e room) (style : Style) (text : String) :
    Follows d (e.writeCentered style text) room := by
  rw [writeCentered_eq]
  exact h.placeLines ..

theorem writeLines (h : Follows d e room) (lines : List String) :
    Follows d (e.writeLines lines) room := by
  unfold Document.writeLines
  induction lines generalizing e with
  | nil => exact h
  | cons line lines ih => exact ih <| h.writeStyled .body line

theorem addSpace (h : Follows d e room) (lines : ℚ) : Follows d (e.addSpace lines) room := by
  rw [addSpace_eq]
  exact h.put above_nil _

theorem putRight (h : Follows d e room) {y : ℚ} (hy : e.layout.margin ≤ y) (style : Style)
    (right : String) :
    Follows d (e.put (rightMarks e.layout style y right) e.page.cursor) room :=
  h.put (above_rightMarks hy) _

theorem writeRow (h : Follows d e room) (style : Style) (left right : String) :
    Follows d (e.writeRow style left right) room := by
  rw [writeRow_eq]
  split
  case h_1 => exact h
  case h_2 first lines _ =>
    have hl := h.placeLine style e.layout.margin first
    have hy : (e.placeLine style e.layout.margin first).1.layout.margin ≤
        (e.placeLine style e.layout.margin first).2 := by
      rw [layout_placeLine]
      exact h.margin_le ..
    exact (hl.putRight hy style right).placeLines ..

end Follows

-- The first line decides.
theorem Open.placeLines (h : d.Open) (style : Style) (x : Options ℚ → List Char → ℚ)
    {lines : List (List Char)} (hl : lines ≠ []) : Follows d (d.placeLines style x lines)
      (d.layout.margin ≤ (d.turned style).page.cursor - d.layout.size style) := by
  obtain ⟨line, lines, rfl⟩ := List.exists_cons_of_ne_nil hl
  have hl := h.placeLine style (x d.layout line) line
  rw [baseline_eq] at hl
  exact hl.placeLines style x lines

/-! ### The pages around the sections -/

-- The next line goes to the top of a page.
structure Blank (d : Document ℚ) : Prop where
  marks  : d.page.marks = []
  cursor : d.page.cursor = d.layout.top

theorem blank_empty (layout : Options ℚ) : (empty layout).Blank :=
  ⟨rfl, rfl⟩

theorem blank_closePage : d.closePage.Blank := by
  constructor <;> rw [page, current_closePage] <;> rfl

theorem blank_startNewPage (h : d.Settled) : d.startNewPage.Blank := by
  rw [startNewPage_of_settled h]
  exact ⟨rfl, congrArg Options.top layout_closePage.symm⟩

theorem isFull_of_marks (h : d.page.marks = []) : d.isFull style = false := by
  cases hc : d.current <;> simp_all [isFull, page]

theorem turned_of_marks (h : d.page.marks = []) : d.turned style = d := by
  rw [turned, isFull_of_marks h]
  rfl

-- Below what is left empty at the top of a page, its first line decides.
theorem Open.opening (h : d.Open) (hd : d.Blank)
    (style : Style) (text : String) (lines : ℚ) :
    Follows d ((d.addSpace lines).writeCentered style text)
      (d.layout.lineHeight .body * lines + d.layout.size style ≤ d.layout.textHeight) := by
  rw [addSpace_eq, larger_exact, hd.cursor]
  let e := d.put [] (max (d.layout.top - d.layout.lineHeight .body * lines) d.layout.margin)
  have he : e.Open := ⟨h.paged.turn h.paged.figures, h.regular, h.roomy⟩
  have hlines : e.layout.lines style text.toList ≠ [] := lines_ne_nil _ _
  have hw := he.placeLines style (·.centered style) hlines
  have hb : e.page.marks = [] := (List.append_nil _).trans hd.marks
  have hi : e.Inside ↔ d.Inside := by rw [inside_put, eq_true above_nil, and_true]
  rw [turned_of_marks hb] at hw
  refine ⟨hw.isOpen, hw.started, hw.layout, ?_⟩
  rw [← h.regular.margin_le_iff, ← hi]
  exact hw.inside

-- There is room for a line at the top of a page.
theorem Open.first (h : d.Open) (hd : d.Blank) (style : Style) (text : String) :
    Follows d (d.writeStyled style text) True := by
  have hlines : d.layout.lines style text.toList ≠ [] := lines_ne_nil _ _
  have hl := h.placeLines style (fun o _ => o.margin) hlines
  have hroom : d.layout.margin ≤ d.layout.top - d.layout.size style := by
    have hsize := h.regular.size_le style
    have hfits := h.roomy.fits style
    unfold Options.textHeight at hfits
    unfold Options.top
    linarith
  rwa [turned_of_marks hd.marks, hd.cursor, eq_true hroom] at hl

section Layout

variable {layout : Options ℚ} (ho : layout.Regular) (hr : layout.Roomy)

theorem inside_empty (layout : Options ℚ) : (empty layout).Inside := by
  simp [Inside, Above, marks, leaves, finishedLeaves, openLeaf, empty]

include ho hr

theorem open_empty : (empty layout).Open :=
  ⟨paged_empty layout, ho, hr⟩

theorem inside_externalCover (subject : SubjectDetails) : (externalCover layout subject).Inside ↔
    layout.lineHeight .body * 4 + layout.size .title ≤ layout.textHeight := by
  have ht := (open_empty ho hr).opening (blank_empty layout) .title reportTitle 4
  have hl := ((ht.addSpace 2).writeLines (subject.identityLines ++
    [subject.periodLine layout.reportDate, reportDateLine layout.reportDate])).inside
  rwa [eq_true (inside_empty layout), true_and] at hl

theorem inside_internalCover (subject : SubjectDetails) (pages : Nat) :
    (internalCover layout subject pages).Inside ↔
      layout.lineHeight .body * 4 + layout.size .title ≤ layout.textHeight := by
  have ht := (open_empty ho hr).opening (blank_empty layout) .title internalMarking 4
  have hl := (((ht.writeCentered .heading reportTitle).addSpace 2).writeLines
    (subject.identityLines ++ [reportDateLine layout.reportDate, totalPagesLine pages])).inside
  rwa [eq_true (inside_empty layout), true_and] at hl

theorem inside_contents (firstPage : Option Nat) (rows : List ContentsRow) :
    (contents layout firstPage rows).Inside := by
  have hf := (open_empty ho hr).first (blank_empty layout) .heading "Contents"
  have hd : Follows (empty layout) (contentsHead layout) True :=
    (hf.writeStyled .body internalMarking).addSpace one
  rw [contents_eq]
  generalize contentsHead layout = d at hd
  induction rows generalizing d with
  | nil => exact hd.inside.2 ⟨inside_empty layout, trivial⟩
  | cons row rows ih => exact ih _ <| hd.writeRow ..

end Layout

theorem Paged.inside_startNewPage (h : d.Paged) (hs : d.Settled) :
    d.startNewPage.Inside ↔ d.Inside := by
  rw [startNewPage_of_settled hs, Inside, marks_eq]
  have hl : d.closePage.finishedLeaves = d.leaves := by
    rw [← leaves_of_none current_closePage, h.leaves_closePage]
  change Above d.closePage.layout.margin (d.closePage.finishedLeaves.flatMap Leaf.marks ++ []) ↔ _
  rw [hl, List.append_nil, layout_closePage]
  rfl

theorem inside_writeRearPage (h : d.Open) (hs : d.Settled) (subject : SubjectDetails) :
    (d.startNewPage.writeRearPage subject).Inside ↔ d.Inside ∧
      d.layout.lineHeight .body * 4 + d.layout.size .heading ≤ d.layout.textHeight := by
  have hl : d.startNewPage.layout = d.layout := layout_startNewPage
  have hn : d.startNewPage.Open :=
    ⟨h.paged.extends_startNewPage.paged, hl ▸ h.regular, hl ▸ h.roomy⟩
  have hw := hn.opening (blank_startNewPage hs) .heading ("End of " ++ reportTitle) 4
  have hi := (hw.writeCentered .body subject.caseLine).inside
  rwa [h.paged.inside_startNewPage hs, hl] at hi

-- However a document comes about, its lines are above the bottom margin but for the first line of a
-- page below too much that was left empty; which is how the covers and the rear page begin.
theorem baselines_above_margin (h : Laid d l) :
    List.Forall₂ Filling.Fills l.all d.leaves ∧
      (∀ c ∈ l.all, ∀ i style x y text beside,
        c.placings[i]? = some (.line style x y text beside) →
        (i ≠ 0 → c.layout.margin + c.layout.lineHeight style ≤ y + c.layout.size style) ∧
        (i = 0 → 0 ≤ c.layout.textHeight →
          (c.layout.margin ≤ y ↔ c.layout.size style ≤ 0 ∨
            c.layout.lineHeight .body * c.lead + c.layout.size style ≤ c.layout.textHeight))) ∧
      (∀ e, d.Edit e → (∃ l', Laid e l') ∨ ∃ lines : ℚ, ¬0 ≤ lines ∧ e = d.addSpace lines) ∧
      (d.layout.Roomy → d.layout.Regular → ∀ subject : SubjectDetails,
        ((externalCover d.layout subject).Inside ↔
          d.layout.lineHeight .body * 4 + d.layout.size .title ≤ d.layout.textHeight) ∧
        (∀ pages, (internalCover d.layout subject pages).Inside ↔
          d.layout.lineHeight .body * 4 + d.layout.size .title ≤ d.layout.textHeight) ∧
        (∀ firstPage rows, (contents d.layout firstPage rows).Inside) ∧
        (d.Settled → ((d.startNewPage.writeRearPage subject).Inside ↔ d.Inside ∧
          d.layout.lineHeight .body * 4 + d.layout.size .heading ≤ d.layout.textHeight))) := by
  refine ⟨h.told.all, ?_, fun e he => h.edit he, fun hr ho subject => ⟨?_, ?_, ?_, ?_⟩⟩
  · intro c hc i style x y text beside hi
    obtain ⟨cursor, hs⟩ := h.based.all c hc
    refine ⟨fun hne => ?_, ?_⟩
    · have hy := hs.lines i style x y text beside hi
      rwa [if_neg hne] at hy
    · rintro rfl htext
      exact hs.margin_le_iff hi <| Options.margin_le_top htext
  · exact inside_externalCover ho hr subject
  · exact inside_internalCover ho hr subject
  · exact inside_contents ho hr
  · exact fun hs => inside_writeRearPage ⟨h.told.paged, ho, hr⟩ hs subject

-- A title below more space than its page has.
def sunkTitle (layout : Options ℚ) : Document ℚ :=
  ((empty layout).addSpace 100).placeBeside .title layout.margin "Report".toList []

theorem baselines_above_margin_sunk :
    ∃ l c, Laid (sunkTitle Options.exact) l ∧ l.all = [c] ∧ c.layout = Options.exact ∧
      Options.exact.Roomy ∧ Options.exact.Regular ∧ c.lead = 100 ∧
      c.placings = [.line .title 50 30 "Report".toList []] ∧ ¬Options.exact.margin ≤ 30 ∧
      ∀ subject, (externalCover Options.exact subject).Inside := by
  have hspace : (zero : ℚ) ≤ 100 := by decide +kernel
  have h := ((Laid.empty Options.exact).space hspace).line .title Options.exact.margin
    "Report".toList []
  have hfull : ((empty Options.exact).addSpace 100).isFull .title = false := by decide +kernel
  have hlead : (zero : ℚ) + 100 = 100 := by decide +kernel
  have hy : (((empty Options.exact).addSpace 100).placeLine .title Options.exact.margin
    "Report".toList).2 = 30 := by decide +kernel
  rw [hfull, hy] at h
  obtain ⟨-, hlines, -, hpages⟩ := baselines_above_margin h
  let c : Filling ℚ := ⟨Options.exact, zero + 100,
    [.line .title Options.exact.margin 30 "Report".toList []]⟩
  have hc := (hlines c (List.mem_singleton_self c) 0 .title 50 30 "Report".toList [] rfl).2 rfl
    (by decide +kernel)
  have hcover (subject : SubjectDetails) :=
    (hpages Options.roomy_exact Options.regular_exact subject).1
  refine ⟨_, c, h, rfl, rfl, Options.roomy_exact, Options.regular_exact, hlead, rfl, ?_, ?_⟩
  · rw [hc]
    decide +kernel
  · exact fun subject => (hcover subject).2 <| by decide +kernel

end Document
end AccessReport
