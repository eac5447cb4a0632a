import AccessReport.Proofs.FrontMatter
import AccessReport.Proofs.Leaves
import AccessReport.Proofs.Rendering

namespace AccessReport

open Coordinate Pdf

variable {α : Type} [Coordinate α]

namespace Document

variable {d e f : Document α} {style : Style} {written : List Bytes}

-- The finished pages are as they were and in front, what was on the open page is still on it, and
-- what is new is on it or on pages behind; `written` are the new lines of text.
structure Extends (d e : Document α) (written : List Bytes) : Prop where
  paged   : e.Paged
  layout  : e.layout = d.layout
  store   : d.store.Grows e.store
  pageIds : d.pageIds <+: e.pageIds
  boxes   : ∃ k, e.boxes = d.boxes ++ List.replicate k (some (mediaBox d.layout.page))
  opened  : ∀ p, d.current = some p →
              ∃ l, e.leaves[d.currentIndex]? = some l ∧ p.marks <+: l.marks
  lines   : e.lines = d.lines ++ written

theorem finishedLeaves_prefix : d.finishedLeaves <+: d.leaves :=
  List.prefix_append ..

theorem getElem?_currentIndex : d.leaves[d.currentIndex]? = d.openLeaf := by
  rw [leaves, List.getElem?_append_right (Nat.le_of_eq length_finishedLeaves),
    length_finishedLeaves, Nat.sub_self]
  cases d.openLeaf <;> rfl

namespace Extends

variable {written' : List Bytes}

theorem finishedLeaves (h : d.Extends e written) (hd : d.Paged) :
    d.finishedLeaves <+: e.finishedLeaves := by
  obtain ⟨new, hn⟩ := h.pageIds
  refine ⟨new.map e.store.leaf, ?_⟩
  rw [Document.finishedLeaves, Document.finishedLeaves, ← hn, List.map_append,
    hd.finishedLeaves_keeps h.store.keeps, Document.finishedLeaves]

theorem trans (h : d.Extends e written) (h' : e.Extends f written') :
    d.Extends f (written ++ written') where
  paged   := h'.paged
  layout  := h'.layout.trans h.layout
  store   := h.store.trans h'.store
  pageIds := h.pageIds.trans h'.pageIds
  boxes   := by
    obtain ⟨k, hk⟩ := h.boxes
    obtain ⟨k', hk'⟩ := h'.boxes
    refine ⟨k + k', ?_⟩
    rw [hk', hk, h.layout, List.append_assoc, List.replicate_append_replicate]
  opened  := by
    intro p hp
    obtain ⟨l, hl, hm⟩ := h.opened p hp
    -- The page was finished in between, or it is still the open one.
    rcases Nat.lt_or_ge d.currentIndex e.currentIndex with hlt | hge
    · refine ⟨l, ?_, hm⟩
      obtain ⟨new, hn⟩ := (h'.finishedLeaves h.paged).trans finishedLeaves_prefix
      have hi : d.currentIndex < e.finishedLeaves.length := by rwa [length_finishedLeaves]
      rw [Document.leaves, List.getElem?_append_left hi] at hl
      rw [← hn, List.getElem?_append_left hi, hl]
    · have hi : d.currentIndex = e.currentIndex := Nat.le_antisymm h.pageIds.length_le hge
      rw [hi, getElem?_currentIndex] at hl
      obtain ⟨q, hq, rfl⟩ := Option.map_eq_some_iff.1 hl
      obtain ⟨l', hl', hm'⟩ := h'.opened q hq
      exact ⟨l', hi ▸ hl', hm.trans hm'⟩
  lines   := by rw [h'.lines, h.lines, List.append_assoc]

end Extends

namespace Paged

theorem extends_refl (h : d.Paged) : d.Extends d [] where
  paged   := h
  layout  := rfl
  store   := .refl h.tidy
  pageIds := List.prefix_rfl
  boxes   := ⟨0, by simp⟩
  opened  := fun p hp => ⟨_, by rw [getElem?_currentIndex, openLeaf, hp]; rfl, List.prefix_rfl⟩
  lines   := by simp

theorem extends_grow (h : d.Paged) {s : Store α} (hs : d.store.Grows s) :
    d.Extends { d with store := s } [] := by
  have hl := h.leaves_grow hs.keeps
  refine { h.extends_refl with
    paged := h.grow hs, store := hs, boxes := ?_, opened := ?_, lines := ?_ }
  · exact ⟨0, by simp [boxes, hl]⟩
  · rw [hl]
    exact h.extends_refl.opened
  · simp [Document.lines, hl]

theorem extends_closePage (h : d.Paged) : d.Extends d.closePage [] where
  paged   := h.closePage
  layout  := layout_closePage
  store   := grows_closePage h.tidy
  pageIds := by
    cases hc : d.current with
    | none => simp [closePage_of_none hc]
    | some p => simp [closePage_of_some hc]
  boxes   := ⟨0, by simp [boxes, h.leaves_closePage]⟩
  opened  := by
    rw [h.leaves_closePage]
    exact h.extends_refl.opened
  lines   := by simp [Document.lines, h.leaves_closePage]

-- What was on the open page is still on it.
theorem extends_turn (h : d.Paged) (marks : List (Mark α)) {n : Nat} {p : OpenPage α}
    (hf : p.figures.find? parentKey = none) (hm : p.marks = d.page.marks ++ marks) :
    d.Extends { d with figureCount := n, current := some p } (marks.filterMap codes?) where
  paged   := h.turn hf
  layout  := rfl
  store   := .refl h.tidy
  pageIds := List.prefix_rfl
  boxes   := by
    cases hc : d.current with
    | none => exact ⟨1, by simp [boxes, leaves, openLeaf, hc, finishedLeaves, OpenPage.leaf]⟩
    | some q => exact ⟨0, by simp [boxes, leaves, openLeaf, hc, finishedLeaves, OpenPage.leaf]⟩
  opened  := by
    intro q hq
    refine ⟨p.leaf d.layout.page, getElem?_currentIndex, ?_⟩
    rw [OpenPage.leaf, hm, page, hq]
    exact List.prefix_append ..
  lines   := by
    rw [lines_eq, lines_eq]
    simp [page, finishedLeaves, hm]

/-! ### Text -/

theorem extends_put (h : d.Paged) (marks : List (Mark α)) (cursor : α) :
    d.Extends (d.put marks cursor) (marks.filterMap codes?) :=
  h.extends_turn marks h.figures rfl

theorem extends_turned (h : d.Paged) (style : Style) : d.Extends (d.turned style) [] := by
  unfold turned
  split
  · exact h.extends_closePage
  · exact h.extends_refl

theorem extends_placeLine (h : d.Paged) (style : Style) (x : α) (line : List Char) :
    d.Extends (d.placeLine style x line).1 [WinAnsi.encode line] := by
  have ht := h.extends_turned style
  exact ht.trans <| ht.paged.extends_put [lineMark ..] _

theorem extends_placeLines (h : d.Paged) (style : Style) (x : Options α → List Char → α)
    (lines : List (List Char)) :
    d.Extends (d.placeLines style x lines) (lines.map WinAnsi.encode) := by
  induction lines generalizing d with
  | nil => exact h.extends_refl
  | cons line lines ih =>
    have hl := h.extends_placeLine style (x d.layout line) line
    exact hl.trans <| ih hl.paged

theorem extends_writeStyled (h : d.Paged) (style : Style) (text : String) :
    d.Extends (d.writeStyled style text)
      ((d.layout.lines style text.toList).map WinAnsi.encode) := by
  rw [writeStyled_eq]
  exact h.extends_placeLines ..

theorem extends_writeCentered (h : d.Paged) (style : Style) (text : String) :
    d.Extends (d.writeCentered style text)
      ((d.layout.lines style text.toList).map WinAnsi.encode) := by
  rw [writeCentered_eq]
  exact h.extends_placeLines ..

end Paged

-- The lines of a block of text.
def blockLines (o : Options α) (block : String) : List Bytes :=
  ((Text.lines block.toList).flatMap (o.lines .body)).map WinAnsi.encode

-- The lines of a row, its right text behind the first line.
def rowLines (o : Options α) (style : Style) (left right : String) : List Bytes :=
  match o.rowLines style left.toList right.toList with
  | [] => []
  | first :: rest =>
    WinAnsi.encode first ::
      ((if right.isEmpty then [] else [WinAnsi.encode right.toList]) ++ rest.map WinAnsi.encode)

namespace Paged

theorem extends_writeBlock (h : d.Paged) (block : String) :
    d.Extends (d.writeBlock block) (blockLines d.layout block) := by
  unfold writeBlock blockLines
  induction Text.lines block.toList generalizing d with
  | nil => exact h.extends_refl
  | cons line lines ih =>
    have hl := h.extends_writeStyled .body (.ofList line)
    have hr := hl.trans <| ih hl.paged
    rw [hl.layout] at hr
    simpa [writeLine] using hr

theorem extends_writeRow (h : d.Paged) (style : Style) (left right : String) :
    d.Extends (d.writeRow style left right) (rowLines d.layout style left right) := by
  rw [writeRow_eq, rowLines]
  cases d.layout.rowLines style left.toList right.toList with
  | nil => exact h.extends_refl
  | cons first rest =>
    have hl := h.extends_placeLine style d.layout.margin first
    have hp := hl.paged.extends_put
      (rightMarks d.layout style (d.placeLine style d.layout.margin first).2 right)
      (d.placeLine style d.layout.margin first).1.page.cursor
    have hr := (hl.trans hp).trans <| hp.paged.extends_placeLines style (fun o _ => o.margin) rest
    rw [filterMap_codes?_rightMarks] at hr
    simpa using hr

theorem extends_addSpace (h : d.Paged) (lines : α) : d.Extends (d.addSpace lines) [] := by
  rw [addSpace_eq]
  exact h.extends_put [] _

theorem extends_startNewPage (h : d.Paged) : d.Extends d.startNewPage [] := by
  unfold startNewPage
  split
  case isTrue => exact h.extends_refl
  case isFalse =>
    have hc := h.extends_closePage
    exact hc.trans <| hc.paged.extends_turn [] rfl (by simp [page, OpenPage.blank])

end Paged

/-! ### Figures, files and attachments -/

omit [Coordinate α] in
theorem find?_figures_draw {p : OpenPage α} (h : p.figures.find? parentKey = none) (n : Nat)
    (id : ObjectId) (matrix : Matrix α) (cursor : α) :
    (p.draw (figureName n) id matrix cursor).figures.find? parentKey = none := by
  have hn : parentKey ≠ Bytes.ofText (figureName n) := (ofText_figureName_ne_parentKey n).symm
  simp [OpenPage.draw, Dictionary.set, Dictionary.find?_put, hn, h]

namespace Paged

theorem extends_addFigure (h : d.Paged) (figure : Stream α) :
    d.Extends (d.addFigure figure).2 [] :=
  h.extends_grow <| h.tidy.grows_add _

theorem extends_drawFigure (h : d.Paged) (id : ObjectId) (matrix : Matrix α) (bottom : α) :
    d.Extends (d.drawFigure id matrix bottom) [] :=
  h.extends_turn [.figure ..] (find?_figures_draw h.figures ..) rfl

theorem extends_appendFigurePage (h : d.Paged) (id : ObjectId) (matrix : Matrix α) :
    d.Extends (d.appendFigurePage id matrix) [] := by
  have hc := h.extends_closePage
  have hb : (OpenPage.blank d.closePage.layout).figures.find? parentKey = none := rfl
  have ho : d.closePage.Extends (d.openFigurePage id matrix) [] :=
    hc.paged.extends_turn [.figure ..] (find?_figures_draw hb ..) (by simp [page]; rfl)
  exact (hc.trans ho).trans ho.paged.extends_closePage

theorem extends_appendFigures (h : d.Paged) (size : Dimensions α)
    (forms : List (Stream α × PageBox α)) : d.Extends (d.appendFigures size forms) [] := by
  induction forms generalizing d with
  | nil => exact h.extends_refl
  | cons form forms ih =>
    have ha := h.extends_addFigure form.1
    have hp := ha.trans <| ha.paged.extends_appendFigurePage (d.addFigure form.1).1
      (Placement.fitCentered form.2.dimensions size)
    exact hp.trans <| ih hp.paged

-- The copies of what pages draw.
theorem grows_copies (h : d.Paged) (source : Store α) :
    d.store.Grows (copyForms source ⟨[], d.store⟩ source.pages).2.target :=
  grows_copyForms (c := ⟨[], d.store⟩) h.tidy _

theorem extends_embedPages (h : d.Paged) (source : Store α) (size : Dimensions α) :
    ∃ written, d.Extends (d.embedPages source size).2 written := by
  let text := announcement source.pages.length
  have hw : d.Extends (d.writeLine text) _ := h.extends_writeStyled .body text
  have hs := hw.trans <| hw.paged.extends_grow (hw.paged.grows_copies source)
  rw [embedPages_eq]
  exact ⟨_, hs.trans <| hs.paged.extends_appendFigures ..⟩

theorem extends_drawPicture (h : d.Paged) (p : Picture.Raster) (page : Dimensions α)
    (proportion : α) : d.Extends (d.drawPicture p page proportion) [] := by
  have hp : d.Extends (d.addPicture p).2 [] := by
    unfold addPicture
    cases p.alpha with
    | none => exact h.extends_addFigure _
    | some alpha =>
      have hm := h.extends_addFigure (plane p.width p.height "DeviceGray" alpha none)
      exact hm.trans <| hm.paged.extends_addFigure _
  exact hp.trans <| hp.paged.extends_drawFigure ..

end Paged

end Document

namespace Renderer

open Document

variable {d e : Document α} {bytes : Bytes} {page : Dimensions α}

theorem extends_drawImage {proportion : α} (h : d.Paged)
    (hr : drawImage d bytes page proportion = .ok e) : ∃ written, d.Extends e written := by
  obtain ⟨p, -, -, rfl⟩ := drawImage_ok_iff.1 hr
  exact ⟨_, h.extends_drawPicture ..⟩

theorem extends_embedPdf (h : d.Paged) (hr : embedPdf d bytes page = .ok e) :
    ∃ written, d.Extends e written := by
  obtain ⟨source, -, -, rfl⟩ := embedPdf_ok_iff.1 hr
  exact h.extends_embedPages source page

theorem extends_render {σ : Type} {w w' : σ} (r : Renderer) {ctx : Rendering (StateM σ) α}
    {info : AttachmentInfo} (h : d.Paged)
    (hr : ((r.render ctx d info bytes).run w).run = (.ok e, w')) :
    ∃ written, d.Extends e written := by
  cases r with
  | image => exact extends_drawImage h (Prod.mk.inj hr).1
  | pdf => exact extends_embedPdf h (Prod.mk.inj hr).1
  | word =>
    cases hc : ctx.converter with
    | none =>
      simp only [render, hc] at hr
      cases (Prod.mk.inj hr).1
    | some convert =>
      simp only [render, hc, StateT.run_bind] at hr
      cases hv : (convert bytes info.filename).run w with
      | mk outcome w₁ =>
        simp only [hv] at hr
        cases outcome with
        | error failure => cases (Prod.mk.inj hr).1
        | ok converted => exact extends_embedPdf h (embedConverted_ok_iff.1 (Prod.mk.inj hr).1).2
  | placeholder =>
    cases (Prod.mk.inj hr).1
    exact ⟨_, h.extends_writeStyled ..⟩

end Renderer

/-! ### All operations -/

namespace Document

variable {d e : Document α} {written : List Bytes}

-- The ways to write text, each with the lines that come of it.
inductive Writing (d : Document α) : Document α → List Bytes → Prop
  | styled (style : Style) (text : String) :
      Writing d (d.writeStyled style text)
        ((d.layout.lines style text.toList).map WinAnsi.encode)
  | centered (style : Style) (text : String) :
      Writing d (d.writeCentered style text)
        ((d.layout.lines style text.toList).map WinAnsi.encode)
  | block (block : String) : Writing d (d.writeBlock block) (blockLines d.layout block)
  | row (style : Style) (left right : String) :
      Writing d (d.writeRow style left right) (rowLines d.layout style left right)

-- Whatever is done to a document but merging. A document that a file or an attachment cannot be
-- put into stays as it is.
inductive Edit (d : Document α) : Document α → Prop
  | text {e : Document α} {lines : List Bytes} : Writing d e lines → Edit d e
  | space (lines : α) : Edit d (d.addSpace lines)
  | newPage : Edit d d.startNewPage
  | addFigure (figure : Stream α) : Edit d (d.addFigure figure).2
  | drawFigure (id : ObjectId) (matrix : Matrix α) (bottom : α) :
      Edit d (d.drawFigure id matrix bottom)
  | figurePage (id : ObjectId) (matrix : Matrix α) : Edit d (d.appendFigurePage id matrix)
  | embed (data : Bytes) (size : Dimensions α) :
      Edit d (((d.embed data size).map Prod.snd).toOption.getD d)
  | attach {σ : Type} (r : Renderer) (ctx : Rendering (StateM σ) α) (info : AttachmentInfo)
      (data : Bytes) (w : σ) :
      Edit d (((r.render ctx d info data).run w).run.1.toOption.getD d)

theorem Paged.extends_writing (h : d.Paged) (hw : d.Writing e written) : d.Extends e written := by
  cases hw with
  | styled style text => exact h.extends_writeStyled ..
  | centered style text => exact h.extends_writeCentered ..
  | block block => exact h.extends_writeBlock _
  | row style left right => exact h.extends_writeRow ..

theorem Paged.extends_edit (h : d.Paged) (he : d.Edit e) : ∃ written, d.Extends e written := by
  cases he with
  | text hw => exact ⟨_, h.extends_writing hw⟩
  | space lines => exact ⟨_, h.extends_addSpace lines⟩
  | newPage => exact ⟨_, h.extends_startNewPage⟩
  | addFigure figure => exact ⟨_, h.extends_addFigure figure⟩
  | drawFigure id matrix bottom => exact ⟨_, h.extends_drawFigure ..⟩
  | figurePage id matrix => exact ⟨_, h.extends_appendFigurePage ..⟩
  | embed data size =>
    cases hr : (d.embed data size).map Prod.snd with
    | error failure => exact ⟨_, h.extends_refl⟩
    | ok e => exact Renderer.extends_embedPdf h hr
  | attach r ctx info data w =>
    cases hr : ((r.render ctx d info data).run w).run with
    | mk outcome w' =>
      cases outcome with
      | error failure => exact ⟨_, h.extends_refl⟩
      | ok e => exact Renderer.extends_render r h hr

-- A text has a line, even the empty one.
theorem Writing.ne_nil (h : d.Writing e written) : written ≠ [] := by
  cases h with
  | styled style text => simp [lines_ne_nil]
  | centered style text => simp [lines_ne_nil]
  | block block =>
    obtain ⟨line, lines, hl⟩ := List.exists_cons_of_ne_nil (Text.cut_ne_nil (· = '\n') block.toList)
    simp [blockLines, Text.lines, hl, lines_ne_nil]
  | row style left right =>
    have hne : d.layout.rowLines style left.toList right.toList ≠ [] := Wrap.wrap_ne_nil _ _
    obtain ⟨first, rest, hl⟩ := List.exists_cons_of_ne_nil hne
    simp [rowLines, hl]

end Document
end AccessReport
