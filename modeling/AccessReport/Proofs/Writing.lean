import AccessReport.Proofs.Sound
import AccessReport.Report.FrontMatter

namespace AccessReport
namespace Document

open Coordinate Pdf

variable {α : Type}

-- Puts lines of text on the open page.
def put [Coordinate α] (d : Document α) (lines : List (Mark α)) (cursor : α) : Document α :=
  { d with current := some { d.page with marks := d.page.marks ++ lines, cursor := cursor } }

-- Nothing but lines of text.
def Plain (marks : List (Mark α)) : Prop :=
  ∀ name matrix, .figure name matrix ∉ marks

theorem plain_nil : Plain ([] : List (Mark α)) := by
  simp [Plain]

-- A page is open, and something is on it.
def Started (d : Document α) : Prop :=
  ∃ p, d.current = some p ∧ p.marks ≠ []

theorem Started.settled {d : Document α} (h : d.Started) : d.Settled := by
  obtain ⟨p, hp, hm⟩ := h
  simpa [Settled, hp] using hm

variable [Coordinate α] {d d' : Document α} {style : Style} {lines : List (Mark α)}

-- A line of text under a layout.
def lineMark (o : Options α) (style : Style) (x y : α) (line : List Char) : Mark α :=
  .text (Options.fontOf style) (o.size style) x y (WinAnsi.encode line)

def lineShown (o : Options α) (style : Style) (x y : α) (line : List Char) : Shown α :=
  .text (Options.fontOf style) (o.size style) x y (WinAnsi.encode line)

-- The right text of a row beside a line with a baseline.
def rightMarks (o : Options α) (style : Style) (y : α) (right : String) : List (Mark α) :=
  if right.isEmpty then [] else [lineMark o style (o.rightColumn style right.toList) y right.toList]

omit [Coordinate α] in
theorem plain_lineMark {o : Options α} {x y : α} {line : List Char} :
    Plain [lineMark o style x y line] := by
  simp [Plain, lineMark]

theorem plain_rightMarks {o : Options α} {y : α} {right : String} :
    Plain (rightMarks o style y right) := by
  unfold rightMarks
  split
  · exact plain_nil
  · exact plain_lineMark

theorem map_shown_plain {s s' : Store α} {figures figures' : Dictionary α} (h : Plain lines) :
    lines.map (Mark.shown s figures) = lines.map (Mark.shown s' figures') := by
  apply List.map_congr_left
  intro m hm
  cases m with
  | text => rfl
  | figure name matrix => exact absurd hm <| h name matrix

@[simp]
theorem layout_startNewPage : d.startNewPage.layout = d.layout := by
  unfold startNewPage
  split <;> simp

namespace Sound

theorem put (h : d.Sound) (hl : Plain lines) (cursor : α) : (d.put lines cursor).Sound := by
  have figure {name matrix} (hm : .figure name matrix ∈ d.page.marks ++ lines) :
      .figure name matrix ∈ d.page.marks :=
    (List.mem_append.1 hm).resolve_right (hl name matrix)
  exact h.turn (fun _ _ hm => h.bound _ _ (figure hm)) (fun _ _ hm => h.named _ _ (figure hm))

theorem startNewPage (h : d.Sound) : d.startNewPage.Sound := by
  unfold Document.startNewPage
  split
  · exact h
  · exact h.closePage.turn (by simp [Bound, OpenPage.blank]) (by simp [Named, OpenPage.blank])

end Sound

-- Two documents with the same open page, one of which has more finished pages in front of those of
-- the other one. What is written to both keeps them like that.
structure Beside (front : List (Sheet α)) (d d' : Document α) : Prop where
  left     : d.Sound
  right    : d'.Sound
  layout   : d.layout = d'.layout
  finished : d.finished = front ++ d'.finished
  view     : d.view = d'.view

namespace Beside

variable {front : List (Sheet α)}

theorem refl (h : d.Sound) : Beside [] d d :=
  ⟨h, h, rfl, rfl, rfl⟩

theorem sheets (h : Beside front d d') : d.sheets = front ++ d'.sheets := by
  simp [Document.sheets, openSheet, h.layout, h.finished, h.view]

theorem page_view (h : Beside front d d') : d.page.view d.store = d'.page.view d'.store := by
  have hv := h.view
  cases hc : d.current <;> cases hc' : d'.current <;>
    simp_all [Document.view, page, OpenPage.blank, OpenPage.view, h.layout]

theorem cursor_eq (h : Beside front d d') : d.page.cursor = d'.page.cursor :=
  congrArg Prod.snd h.page_view

theorem isFull_eq (h : Beside front d d') : d.isFull style = d'.isFull style := by
  have hv := h.view
  cases hc : d.current <;> cases hc' : d'.current <;>
    simp_all [Document.view, OpenPage.view, isFull, h.layout]
  rw [← List.isEmpty_map, hv.1, List.isEmpty_map]

theorem closePage (h : Beside front d d') : Beside front d.closePage d'.closePage where
  left     := h.left.closePage
  right    := h.right.closePage
  layout   := by simp [h.layout]
  finished := by rw [h.left.finished_closePage, h.right.finished_closePage, h.sheets]
  view     := by simp [Document.view]

theorem turn (h : Beside front d d') {n n' : Nat} {p p' : OpenPage α}
    (hs : { d with figureCount := n, current := some p }.Sound)
    (hs' : { d' with figureCount := n', current := some p' }.Sound)
    (hv : p.view d.store = p'.view d'.store) :
    Beside front { d with figureCount := n, current := some p }
      { d' with figureCount := n', current := some p' } :=
  { h with
    left  := hs
    right := hs'
    view  := congrArg some hv }

theorem grow (h : Beside front d d') {s s' : Store α} (hs : d.store.Grows s)
    (hs' : d'.store.Grows s') : Beside front { d with store := s } { d' with store := s' } where
  left     := h.left.grow hs
  right    := h.right.grow hs'
  layout   := h.layout
  finished := by rw [h.left.finished_grow hs, h.right.finished_grow hs', h.finished]
  view     := by rw [h.left.view_grow hs, h.right.view_grow hs', h.view]

theorem put (h : Beside front d d') (hl : Plain lines) (cursor : α) :
    Beside front (d.put lines cursor) (d'.put lines cursor) := by
  refine h.turn (h.left.put hl cursor) (h.right.put hl cursor) ?_
  have hv := congrArg Prod.fst h.page_view
  simp only [OpenPage.view] at hv
  simp only [OpenPage.view, List.map_append]
  rw [hv, map_shown_plain hl]

end Beside

-- The document that the next line goes to.
def turned (d : Document α) (style : Style) : Document α :=
  if d.isFull style then d.closePage else d

-- Puts lines one below the other.
def placeLines (d : Document α) (style : Style) (x : Options α → List Char → α)
    (lines : List (List Char)) : Document α :=
  lines.foldl (fun d line => (d.placeLine style (x d.layout line) line).1) d

theorem placeLine_eq (x : α) (line : List Char) :
    d.placeLine style x line =
      let e := d.turned style
      let y := e.page.cursor - e.layout.size style
      (e.put [lineMark e.layout style x y line] (e.page.cursor - e.layout.lineHeight style), y) :=
  rfl

theorem addSpace_eq (n : α) :
    d.addSpace n =
      d.put [] (larger (d.page.cursor - d.layout.lineHeight .body * n) d.layout.margin) := by
  simp [addSpace, put]

theorem writeStyled_eq (text : String) :
    d.writeStyled style text =
      d.placeLines style (fun o _ => o.margin) (d.layout.lines style text.toList) :=
  rfl

theorem writeCentered_eq (text : String) :
    d.writeCentered style text =
      d.placeLines style (·.centered style) (d.layout.lines style text.toList) :=
  rfl

theorem writeRow_eq (left right : String) :
    d.writeRow style left right =
      match d.layout.rowLines style left.toList right.toList with
      | [] => d
      | first :: lines =>
        let (e, y) := d.placeLine style d.layout.margin first
        (e.put (rightMarks e.layout style y right) e.page.cursor).placeLines style
          (fun o _ => o.margin) lines := by
  unfold writeRow
  cases d.layout.rowLines style left.toList right.toList with
  | nil => rfl
  | cons first lines =>
    cases h : right.isEmpty
    · simp [placeLine_eq, rightMarks, h, placeLines, mark, put, page, textMark, lineMark]
    · simp [placeLine_eq, rightMarks, h, placeLines, put, page]

namespace Beside

variable {front : List (Sheet α)}

theorem turned (h : Beside front d d') (style : Style) :
    Beside front (d.turned style) (d'.turned style) := by
  unfold Document.turned
  rw [h.isFull_eq]
  split
  · exact h.closePage
  · exact h

theorem placeLine (h : Beside front d d') (style : Style) (x : α) (line : List Char) :
    Beside front (d.placeLine style x line).1 (d'.placeLine style x line).1 ∧
      (d.placeLine style x line).2 = (d'.placeLine style x line).2 := by
  have ht := h.turned style
  simp only [placeLine_eq, ht.cursor_eq, ht.layout]
  exact ⟨ht.put plain_lineMark _, trivial⟩

theorem placeLines (h : Beside front d d') (style : Style) (x : Options α → List Char → α)
    (lines : List (List Char)) :
    Beside front (d.placeLines style x lines) (d'.placeLines style x lines) := by
  refine List.foldl_rel h fun line _ e e' he => ?_
  rw [he.layout]
  exact (he.placeLine style _ line).1

theorem writeStyled (h : Beside front d d') (style : Style) (text : String) :
    Beside front (d.writeStyled style text) (d'.writeStyled style text) := by
  rw [writeStyled_eq, writeStyled_eq, h.layout]
  exact h.placeLines ..

theorem writeLine (h : Beside front d d') (text : String) :
    Beside front (d.writeLine text) (d'.writeLine text) :=
  h.writeStyled ..

theorem writeHeading (h : Beside front d d') (text : String) :
    Beside front (d.writeHeading text) (d'.writeHeading text) :=
  h.writeStyled ..

theorem writeLines (h : Beside front d d') (lines : List String) :
    Beside front (d.writeLines lines) (d'.writeLines lines) :=
  List.foldl_rel h fun line _ _ _ he => he.writeLine line

theorem writeBlock (h : Beside front d d') (block : String) :
    Beside front (d.writeBlock block) (d'.writeBlock block) :=
  List.foldl_rel h fun line _ _ _ he => he.writeLine (.ofList line)

theorem writeCentered (h : Beside front d d') (style : Style) (text : String) :
    Beside front (d.writeCentered style text) (d'.writeCentered style text) := by
  rw [writeCentered_eq, writeCentered_eq, h.layout]
  exact h.placeLines ..

theorem addSpace (h : Beside front d d') (n : α) : Beside front (d.addSpace n) (d'.addSpace n) := by
  rw [addSpace_eq, addSpace_eq, h.cursor_eq, h.layout]
  exact h.put plain_nil _

theorem writeRow (h : Beside front d d') (style : Style) (left right : String) :
    Beside front (d.writeRow style left right) (d'.writeRow style left right) := by
  rw [writeRow_eq, writeRow_eq, h.layout]
  split
  case h_1 => exact h
  case h_2 first lines _ =>
    have ⟨hl, hy⟩ := h.placeLine style d'.layout.margin first
    simp only [hy, hl.layout, hl.cursor_eq]
    exact (hl.put plain_rightMarks _).placeLines ..

theorem writeRearPage (h : Beside front d d') (subject : SubjectDetails) :
    Beside front (d.writeRearPage subject) (d'.writeRearPage subject) :=
  ((h.addSpace _).writeCentered ..).writeCentered ..

end Beside
-- The text that a mark shows.
def codes? : Mark α → Option Bytes
  | .text _ _ _ _ codes => some codes
  | .figure ..          => none

theorem codes?_shown {s : Store α} {figures : Dictionary α} (m : Mark α) :
    (Mark.shown s figures m).codes? = codes? m := by
  cases m <;> rfl

theorem shown_put (cursor : α) :
    (d.put lines cursor).shown = d.shown ++ lines.map (Mark.shown d.store d.page.figures) := by
  rw [shown_eq, shown_eq]
  simp [put, page, finished, OpenPage.view]

@[simp]
theorem texts_put (cursor : α) :
    (d.put lines cursor).texts = d.texts ++ lines.filterMap codes? := by
  simp [texts, shown_put, List.filterMap_map, codes?_shown]

@[simp]
theorem layout_put (cursor : α) : (d.put lines cursor).layout = d.layout :=
  rfl

omit [Coordinate α] in
theorem Plain.append {lines' : List (Mark α)} (h : Plain lines) (h' : Plain lines') :
    Plain (lines ++ lines') := by
  intro name matrix hm
  exact (List.mem_append.1 hm).elim (h name matrix) (h' name matrix)

theorem put_put {lines' : List (Mark α)} (cursor cursor' : α) :
    (d.put lines cursor).put lines' cursor' = d.put (lines ++ lines') cursor' := by
  simp [put, page]

theorem started_put (cursor : α) (h : lines ≠ []) : (d.put lines cursor).Started :=
  ⟨_, rfl, by simp [h]⟩

@[simp]
theorem layout_turned : (d.turned style).layout = d.layout := by
  unfold turned
  split <;> simp

section PlaceLines

variable {x : Options α → List Char → α} {line : List Char} {lines : List (List Char)}

@[simp]
theorem placeLines_nil : d.placeLines style x [] = d :=
  rfl

theorem placeLines_cons :
    d.placeLines style x (line :: lines) =
      (d.placeLine style (x d.layout line) line).1.placeLines style x lines :=
  rfl

@[simp]
theorem layout_placeLine {x : α} : (d.placeLine style x line).1.layout = d.layout := by
  simp [placeLine_eq]

theorem started_placeLine {x : α} : (d.placeLine style x line).1.Started :=
  started_put _ (by simp)

@[simp]
theorem layout_placeLines : (d.placeLines style x lines).layout = d.layout := by
  induction lines generalizing d with
  | nil => rfl
  | cons line lines ih => rw [placeLines_cons, ih, layout_placeLine]

theorem Started.placeLines (h : d.Started) : (d.placeLines style x lines).Started := by
  induction lines generalizing d with
  | nil => exact h
  | cons line lines ih => exact ih started_placeLine

theorem started_placeLines (h : lines ≠ []) : (d.placeLines style x lines).Started := by
  cases lines with
  | nil => cases h rfl
  | cons line lines => exact started_placeLine.placeLines

end PlaceLines

-- A text has at least one line, even the empty one.
theorem lines_ne_nil (o : Options α) (text : List Char) : o.lines style text ≠ [] :=
  Wrap.wrap_ne_nil _ _

theorem started_writeStyled {text : String} : (d.writeStyled style text).Started := by
  rw [writeStyled_eq]
  exact started_placeLines (lines_ne_nil _ _)

theorem started_writeCentered {text : String} : (d.writeCentered style text).Started := by
  rw [writeCentered_eq]
  exact started_placeLines (lines_ne_nil _ _)

@[simp]
theorem layout_writeStyled {text : String} : (d.writeStyled style text).layout = d.layout := by
  rw [writeStyled_eq, layout_placeLines]

@[simp]
theorem layout_writeHeading {text : String} : (d.writeHeading text).layout = d.layout :=
  layout_writeStyled

@[simp]
theorem layout_writeLine {text : String} : (d.writeLine text).layout = d.layout :=
  layout_writeStyled

omit [Coordinate α] in
theorem Started.pageCount (h : d.Started) : d.pageCount = d.currentIndex + 1 := by
  obtain ⟨p, hp, -⟩ := h
  simp [Document.pageCount, currentIndex, hp]

theorem started_writeHeading {text : String} : (d.writeHeading text).Started :=
  started_writeStyled

theorem Started.writeBlock (h : d.Started) (block : String) : (d.writeBlock block).Started := by
  unfold Document.writeBlock
  induction Text.lines block.toList generalizing d with
  | nil => exact h
  | cons line lines ih => exact ih started_writeStyled

@[simp]
theorem layout_writeBlock {block : String} : (d.writeBlock block).layout = d.layout := by
  unfold writeBlock
  induction Text.lines block.toList generalizing d with
  | nil => rfl
  | cons line lines ih => rw [List.foldl_cons, ih, layout_writeLine]

-- What was there is still there, in front of what is new.
structure Continues (d e : Document α) : Prop where
  layout : e.layout = d.layout
  store  : d.store.Grows e.store
  sheets : Sheet.Adds d.sheets e.sheets
  shown  : d.shown <+: e.shown

theorem Continues.trans {e f : Document α} (h₁ : d.Continues e) (h₂ : e.Continues f) :
    d.Continues f :=
  ⟨h₂.layout.trans h₁.layout, h₁.store.trans h₂.store, h₁.sheets.trans h₂.sheets,
    h₁.shown.trans h₂.shown⟩

namespace Sound

theorem continues_refl (h : d.Sound) : d.Continues d :=
  ⟨rfl, .refl h.tidy, .refl _, List.prefix_rfl⟩

theorem continues_grow (h : d.Sound) {s : Store α} (hs : d.store.Grows s) :
    d.Continues { d with store := s } :=
  ⟨rfl, hs, h.sheets_grow hs ▸ .refl _, h.shown_grow hs ▸ List.prefix_rfl⟩

theorem continues_closePage (h : d.Sound) : d.Continues d.closePage :=
  ⟨layout_closePage, h.grows_closePage, h.sheets_closePage ▸ .refl _,
    h.shown_closePage ▸ List.prefix_rfl⟩

-- What was on the open page is still on it.
theorem continues_turn (h : d.Sound) {n : Nat} {p : OpenPage α}
    (hp : (d.page.view d.store).1 <+: (p.view d.store).1) :
    d.Continues { d with figureCount := n, current := some p } where
  layout := rfl
  store  := .refl h.tidy
  sheets := by
    refine .append_left ?_ d.finished
    cases hc : d.current with
    | none => simpa [openSheet, Document.view, hc] using .nil _
    | some q =>
      simp only [page, hc, Option.getD_some] at hp
      simpa [openSheet, Document.view, hc] using .cons rfl hp (.nil [])
  shown  := by
    rw [shown_turn, shown_eq]
    exact (List.prefix_append_right_inj _).2 hp

theorem continues_put (h : d.Sound) (cursor : α) : d.Continues (d.put lines cursor) := by
  refine h.continues_turn ?_
  simp [OpenPage.view]

theorem continues_turned (h : d.Sound) (style : Style) : d.Continues (d.turned style) := by
  unfold Document.turned
  split
  · exact h.continues_closePage
  · exact h.continues_refl

theorem shown_turned (h : d.Sound) (style : Style) : (d.turned style).shown = d.shown := by
  unfold Document.turned
  split
  · exact h.shown_closePage
  · rfl

theorem texts_turned (h : d.Sound) (style : Style) : (d.turned style).texts = d.texts := by
  rw [texts, h.shown_turned, texts]

theorem turned (h : d.Sound) (style : Style) : (d.turned style).Sound :=
  ((Beside.refl h).turned style).left

theorem texts_placeLine (h : d.Sound) (x : α) (line : List Char) :
    (d.placeLine style x line).1.texts = d.texts ++ [WinAnsi.encode line] := by
  simp [placeLine_eq, h.texts_turned, lineMark, codes?]

theorem placeLine (h : d.Sound) (style : Style) (x : α) (line : List Char) :
    (d.placeLine style x line).1.Sound :=
  ((Beside.refl h).placeLine style x line).1.left

theorem continues_placeLine (h : d.Sound) (style : Style) (x : α) (line : List Char) :
    d.Continues (d.placeLine style x line).1 :=
  (h.continues_turned style).trans <| (h.turned style).continues_put _

theorem continues_placeLines (h : d.Sound) (style : Style) (x : Options α → List Char → α)
    (lines : List (List Char)) : d.Continues (d.placeLines style x lines) := by
  induction lines generalizing d with
  | nil => exact h.continues_refl
  | cons line lines ih =>
    exact (h.continues_placeLine style _ line).trans <| ih <| h.placeLine style _ line

theorem placeLines (h : d.Sound) (style : Style) (x : Options α → List Char → α)
    (lines : List (List Char)) : (d.placeLines style x lines).Sound :=
  ((Beside.refl h).placeLines style x lines).left

theorem texts_placeLines (h : d.Sound) (x : Options α → List Char → α) (lines : List (List Char)) :
    (d.placeLines style x lines).texts = d.texts ++ lines.map WinAnsi.encode := by
  induction lines generalizing d with
  | nil => simp [Document.placeLines]
  | cons line lines ih =>
    rw [placeLines_cons, ih (h.placeLine style _ line), h.texts_placeLine]
    simp

theorem writeStyled (h : d.Sound) (style : Style) (text : String) :
    (d.writeStyled style text).Sound :=
  ((Beside.refl h).writeStyled style text).left

theorem continues_writeStyled (h : d.Sound) (style : Style) (text : String) :
    d.Continues (d.writeStyled style text) := by
  rw [writeStyled_eq]
  exact h.continues_placeLines ..

theorem texts_writeStyled (h : d.Sound) (text : String) :
    (d.writeStyled style text).texts =
      d.texts ++ (d.layout.lines style text.toList).map WinAnsi.encode := by
  rw [writeStyled_eq, h.texts_placeLines]

theorem continues_writeBlock (h : d.Sound) (block : String) :
    d.Continues (d.writeBlock block) := by
  unfold Document.writeBlock
  induction Text.lines block.toList generalizing d with
  | nil => exact h.continues_refl
  | cons line lines ih =>
    exact (h.continues_writeStyled ..).trans <| ih <| h.writeStyled ..

theorem texts_writeBlock (h : d.Sound) (block : String) :
    (d.writeBlock block).texts =
      d.texts ++ ((Text.lines block.toList).flatMap (d.layout.lines .body)).map WinAnsi.encode := by
  unfold Document.writeBlock
  induction Text.lines block.toList generalizing d with
  | nil => simp
  | cons line lines ih =>
    have hl : (d.writeLine (.ofList line)).Sound := h.writeStyled ..
    rw [List.foldl_cons, ih hl, layout_writeLine, writeLine, h.texts_writeStyled]
    simp

end Sound
end Document
end AccessReport
