import AccessReport.Proofs.Building

namespace AccessReport

open Coordinate Pdf

variable {α : Type} [Coordinate α]

namespace Document

variable {d e f : Document α} {ids ids' : List ObjectId} {style : Style}

-- Puts an object on the open page under the next name.
def draw (d : Document α) (id : ObjectId) (matrix : Matrix α) (cursor : α) : Document α :=
  { d with
    figureCount := d.figureCount + 1
    current := some <| d.page.draw (figureName (d.figureCount + 1)) id matrix cursor }

-- What an operation does bit by bit, and the objects that it draws.
inductive Steps (d : Document α) : Document α → List ObjectId → Prop
  | start : Steps d d []
  | close {e : Document α} {ids : List ObjectId} : Steps d e ids → Steps d e.closePage ids
  | grow {e : Document α} {ids : List ObjectId} {s : Store α} :
      Steps d e ids → e.store.Grows s → Steps d { e with store := s } ids
  | put {e : Document α} {ids : List ObjectId} {marks : List (Mark α)} (cursor : α) :
      Steps d e ids → Plain marks → Steps d (e.put marks cursor) ids
  | draw {e : Document α} {ids : List ObjectId} (id : ObjectId) (matrix : Matrix α) (cursor : α) :
      Steps d e ids → Steps d (e.draw id matrix cursor) (ids ++ [id])

-- What holds of a document, and of the names that it gave out.
structure Numbered (d : Document α) : Prop extends Paged d where
  named : Named d.figureCount d.page.marks

theorem numbered_empty (layout : Options α) : (empty layout).Numbered where
  toPaged := paged_empty layout
  named   := (sound_empty layout).named

namespace Numbered

variable {s : Store α} {marks : List (Mark α)} {cursor : α} {id : ObjectId} {matrix : Matrix α}

theorem closePage (h : d.Numbered) : d.closePage.Numbered where
  toPaged := h.toPaged.closePage
  named   := by
    cases hc : d.current with
    | none =>
      rw [closePage_of_none hc]
      exact h.named
    | some p => simp [Named, closePage_of_some hc, page, OpenPage.blank]

theorem grow (h : d.Numbered) (hs : d.store.Grows s) : { d with store := s }.Numbered where
  toPaged := h.toPaged.grow hs
  named   := h.named

theorem put (h : d.Numbered) (hm : Plain marks) : (d.put marks cursor).Numbered where
  toPaged := h.toPaged.turn (n := d.figureCount) h.figures
  named   := by
    intro name matrix hf
    rcases List.mem_append.1 hf with hf | hf
    · exact h.named name matrix hf
    · exact absurd hf <| hm name matrix

theorem draw (h : d.Numbered) : (d.draw id matrix cursor).Numbered where
  toPaged := h.toPaged.turn (find?_figures_draw h.figures ..)
  named   := h.named.draw

theorem steps (h : d.Numbered) (hs : d.Steps e ids) : e.Numbered := by
  induction hs with
  | start => exact h
  | close _ ih => exact ih.closePage
  | grow _ hg ih => exact ih.grow hg
  | put _ _ hm ih => exact ih.put hm
  | draw _ _ _ _ ih => exact ih.draw

end Numbered

namespace Steps

theorem trans (h : d.Steps e ids) (h' : e.Steps f ids') : d.Steps f (ids ++ ids') := by
  induction h' with
  | start => rwa [List.append_nil]
  | close _ ih => exact ih.close
  | grow _ hg ih => exact ih.grow hg
  | put cursor _ hm ih => exact ih.put cursor hm
  | draw id matrix cursor _ ih =>
    rw [← List.append_assoc]
    exact ih.draw id matrix cursor

-- Bits in which nothing is drawn come to nothing drawn.
theorem plain (h : d.Steps e []) (h' : e.Steps f []) : d.Steps f [] :=
  h.trans h'

/-! ### Text -/

theorem turned (d : Document α) (style : Style) : d.Steps (d.turned style) [] := by
  unfold Document.turned
  split
  · exact .close .start
  · exact .start

theorem placeLine (d : Document α) (style : Style) (x : α) (line : List Char) :
    d.Steps (d.placeLine style x line).1 [] :=
  .put _ (.turned d style) plain_lineMark

theorem placeLines (d : Document α) (style : Style) (x : Options α → List Char → α)
    (lines : List (List Char)) : d.Steps (d.placeLines style x lines) [] := by
  induction lines generalizing d with
  | nil => exact .start
  | cons line lines ih => exact (Steps.placeLine d style _ line).plain (ih _)

theorem writeStyled (d : Document α) (style : Style) (text : String) :
    d.Steps (d.writeStyled style text) [] := by
  rw [writeStyled_eq]
  exact .placeLines ..

theorem writeCentered (d : Document α) (style : Style) (text : String) :
    d.Steps (d.writeCentered style text) [] := by
  rw [writeCentered_eq]
  exact .placeLines ..

theorem writeBlock (d : Document α) (block : String) : d.Steps (d.writeBlock block) [] := by
  unfold Document.writeBlock
  induction Text.lines block.toList generalizing d with
  | nil => exact .start
  | cons line lines ih => exact (Steps.writeStyled d .body _).plain (ih _)

theorem writeRow (d : Document α) (style : Style) (left right : String) :
    d.Steps (d.writeRow style left right) [] := by
  rw [writeRow_eq]
  cases d.layout.rowLines style left.toList right.toList with
  | nil => exact .start
  | cons first lines =>
    have hfirst : d.Steps (d.placeLine style d.layout.margin first).1 [] := .placeLine ..
    have hright : Plain (rightMarks (d.placeLine style d.layout.margin first).1.layout style
        (d.placeLine style d.layout.margin first).2 right) := plain_rightMarks
    exact (hfirst.put _ hright).plain <| .placeLines ..

theorem writing {written : List Bytes} (h : d.Writing e written) : d.Steps e [] := by
  cases h with
  | styled style text => exact .writeStyled ..
  | centered style text => exact .writeCentered ..
  | block block => exact .writeBlock ..
  | row style left right => exact .writeRow ..

theorem addSpace (d : Document α) (lines : α) : d.Steps (d.addSpace lines) [] := by
  rw [addSpace_eq]
  exact .put _ .start plain_nil

theorem startNewPage (d : Document α) : d.Steps d.startNewPage [] := by
  unfold Document.startNewPage
  split
  case isTrue => exact .start
  case isFalse =>
    have hp : { d.closePage with current := some (OpenPage.blank d.layout) } =
        d.closePage.put [] d.layout.top := by
      simp [Document.put, page, OpenPage.blank]
    rw [hp]
    exact .put _ (.close .start) plain_nil

/-! ### Figures, files and attachments -/

theorem addFigure (h : d.Paged) (figure : Stream α) : d.Steps (d.addFigure figure).2 [] :=
  .grow .start (h.tidy.grows_add _)

theorem drawFigure (d : Document α) (id : ObjectId) (matrix : Matrix α) (bottom : α) :
    d.Steps (d.drawFigure id matrix bottom) [id] :=
  .draw id matrix _ .start

theorem openFigurePage_eq (id : ObjectId) (matrix : Matrix α) :
    d.openFigurePage id matrix = d.closePage.draw id matrix d.closePage.layout.top := by
  simp [openFigurePage, Document.draw, page]

theorem appendFigurePage (d : Document α) (id : ObjectId) (matrix : Matrix α) :
    d.Steps (d.appendFigurePage id matrix) [id] := by
  rw [appendFigurePage_eq, openFigurePage_eq]
  exact .close <| .draw id matrix _ <| .close .start

theorem appendFigures (h : d.Numbered) (size : Dimensions α)
    (forms : List (Stream α × PageBox α)) : ∃ ids, d.Steps (d.appendFigures size forms) ids := by
  induction forms generalizing d with
  | nil => exact ⟨[], .start⟩
  | cons form forms ih =>
    have ha : d.Steps (d.appendFigure form.1 (Placement.fitCentered form.2.dimensions size)) _ :=
      (Steps.addFigure h.toPaged form.1).trans (.appendFigurePage ..)
    obtain ⟨ids, hs⟩ := ih (h.steps ha)
    exact ⟨_, ha.trans hs⟩

theorem embedPages (h : d.Numbered) (source : Store α) (size : Dimensions α) :
    ∃ ids, d.Steps (d.embedPages source size).2 ids := by
  let line := d.writeLine (announcement source.pages.length)
  have hline : d.Steps line [] := .writeStyled ..
  have hs := hline.grow ((h.steps hline).grows_copies source)
  obtain ⟨ids, ha⟩ := Steps.appendFigures (h.steps hs) size
    ((copyForms source ⟨[], line.store⟩ source.pages).1.zip (source.pages.map (boxOf source)))
  exact ⟨_, hs.trans ha⟩

theorem drawPicture (h : d.Numbered) (p : Picture.Raster) (page : Dimensions α)
    (proportion : α) : ∃ ids, d.Steps (d.drawPicture p page proportion) ids := by
  have ha : d.Steps (d.addPicture p).2 [] := by
    unfold addPicture
    cases p.alpha with
    | none => exact .addFigure h.toPaged _
    | some alpha =>
      have hm : d.Steps (d.addFigure (plane p.width p.height "DeviceGray" alpha none)).2 [] :=
        .addFigure h.toPaged _
      exact hm.plain <| .addFigure (h.steps hm).toPaged _
  exact ⟨_, ha.trans <| .drawFigure ..⟩

end Steps
end Document

namespace Renderer

open Document

variable {d e : Document α} {bytes : Bytes} {page : Dimensions α}

-- What holds of a document that a renderer has put an attachment into, whatever its kind.
theorem render_induction {σ : Type} {w w' : σ} {P : Document α → Prop} {r : Renderer}
    {ctx : Rendering (StateM σ) α} {info : AttachmentInfo}
    (line : ∀ text, P (d.writeLine text)) (pages : ∀ source size, P (d.embedPages source size).2)
    (picture : ∀ p size proportion, P (d.drawPicture p size proportion))
    (h : ((r.render ctx d info bytes).run w).run = (.ok e, w')) : P e := by
  have file {data : Bytes} (hr : embedPdf d data ctx.pageSize = .ok e) : P e := by
    obtain ⟨source, -, -, rfl⟩ := embedPdf_ok_iff.1 hr
    exact pages source ctx.pageSize
  cases r with
  | image =>
    obtain ⟨p, -, -, rfl⟩ := drawImage_ok_iff.1 (Prod.mk.inj h).1
    exact picture p _ _
  | pdf => exact file (Prod.mk.inj h).1
  | word =>
    cases hc : ctx.converter with
    | none =>
      simp only [render, hc] at h
      cases (Prod.mk.inj h).1
    | some convert =>
      simp only [render, hc, StateT.run_bind] at h
      cases hv : (convert bytes info.filename).run w with
      | mk outcome w₁ =>
        simp only [hv] at h
        cases outcome with
        | error failure => cases (Prod.mk.inj h).1
        | ok converted => exact file (embedConverted_ok_iff.1 (Prod.mk.inj h).1).2
  | placeholder =>
    cases (Prod.mk.inj h).1
    exact line _

end Renderer

namespace Document

variable {d e : Document α}

-- What holds of a document after an operation that stands alone or consists of others.
theorem Edit.steps (h : d.Numbered) (he : d.Edit e) : ∃ ids, d.Steps e ids := by
  cases he with
  | text hw => exact ⟨_, .writing hw⟩
  | space lines => exact ⟨_, .addSpace d lines⟩
  | newPage => exact ⟨_, .startNewPage d⟩
  | addFigure figure => exact ⟨_, .addFigure h.toPaged figure⟩
  | drawFigure id matrix bottom => exact ⟨_, .drawFigure ..⟩
  | figurePage id matrix => exact ⟨_, .appendFigurePage ..⟩
  | embed data size =>
    cases hr : (d.embed data size).map Prod.snd with
    | error failure => exact ⟨_, .start⟩
    | ok e =>
      obtain ⟨source, -, -, rfl⟩ := Renderer.embedPdf_ok_iff.1 hr
      exact Steps.embedPages h source size
  | attach r ctx info data w =>
    cases hr : ((r.render ctx d info data).run w).run with
    | mk outcome w' =>
      cases outcome with
      | error failure => exact ⟨_, .start⟩
      | ok e =>
        exact Renderer.render_induction (P := fun e => ∃ ids, d.Steps e ids)
          (fun _ => ⟨_, .writeStyled ..⟩) (Steps.embedPages h) (Steps.drawPicture h) hr

end Document
end AccessReport
