import AccessReport.Proofs.Steps

namespace AccessReport

open Coordinate Pdf

variable {α : Type}

-- What is put on a page at one time: a line of text with what stands beside it, or an object with
-- the height that later text keeps below.
inductive Placing (α : Type) where
  | line (style : Style) (x y : α) (text : List Char) (beside : List (α × List Char))
  | figure (name : String) (matrix : Matrix α) (bottom : Option α)
deriving DecidableEq

-- How a page was filled: the body lines that were left empty above everything, and what was put on
-- it then.
structure Filling (α : Type) where
  layout   : Options α
  lead     : α
  placings : List (Placing α)

-- How the pages of a document were filled.
structure Fillings (α : Type) where
  finished : List (Filling α) := []
  current  : Option (Filling α) := none

variable [Coordinate α]

namespace Placing

def marks (o : Options α) : Placing α → List (Mark α)
  | line style x y text beside =>
    Document.lineMark o style x y text ::
      beside.map fun t => Document.lineMark o style t.1 y t.2
  | figure name matrix _ => [.figure name matrix]

omit [Coordinate α] in
theorem marks_ne_nil (o : Options α) (p : Placing α) : p.marks o ≠ [] := by
  cases p <;> simp [marks]

end Placing

namespace Filling

def blank (layout : Options α) : Filling α :=
  ⟨layout, zero, []⟩

omit [Coordinate α] in
def put (c : Filling α) (p : Placing α) : Filling α :=
  { c with placings := c.placings ++ [p] }

-- What is left empty further down leaves its trace in what comes below it.
def leave (c : Filling α) (lines : α) : Filling α :=
  if c.placings.isEmpty then { c with lead := c.lead + lines } else c

def marks (c : Filling α) : List (Mark α) :=
  c.placings.flatMap (Placing.marks c.layout)

-- The page is the one that was filled like that.
structure Fills (c : Filling α) (l : Leaf α) : Prop where
  box   : l.box = some (Document.mediaBox c.layout.page)
  marks : l.marks = c.marks

variable {c : Filling α} {p : Placing α}

omit [Coordinate α] in
theorem marks_put : (c.put p).marks = c.marks ++ p.marks c.layout := by
  simp [marks, put]

theorem marks_leave (lines : α) : (c.leave lines).marks = c.marks := by
  unfold leave
  split <;> rfl

theorem layout_leave (lines : α) : (c.leave lines).layout = c.layout := by
  unfold leave
  split <;> rfl

omit [Coordinate α] in
theorem isEmpty_marks : c.marks.isEmpty = c.placings.isEmpty := by
  cases h : c.placings with
  | nil => simp [marks, h]
  | cons p placings => simp [marks, h, p.marks_ne_nil]

end Filling

namespace Fillings

def all (l : Fillings α) : List (Filling α) :=
  l.finished ++ l.current.toList

def close (l : Fillings α) : Fillings α where
  finished := l.all

-- How the open page was filled, or the one that would be opened.
def page (l : Fillings α) (layout : Options α) : Filling α :=
  l.current.getD (.blank layout)

def put (l : Fillings α) (layout : Options α) (p : Placing α) : Fillings α :=
  { l with current := some ((l.page layout).put p) }

def leave (l : Fillings α) (layout : Options α) (lines : α) : Fillings α :=
  { l with current := some ((l.page layout).leave lines) }

def startNew (l : Fillings α) (layout : Options α) : Fillings α :=
  if l.current.any (·.placings.isEmpty) then l else { l.close with current := some (.blank layout) }

end Fillings

namespace Document

variable {d e other : Document α} {l l' : Fillings α} {s : Store α} {style : Style}

-- Puts a line of text on a page, and other ones beside it.
def placeBeside (d : Document α) (style : Style) (x : α) (line : List Char)
    (beside : List (α × List Char)) : Document α :=
  let (e, y) := d.placeLine style x line
  e.put (beside.map fun t => lineMark e.layout style t.1 y t.2) e.page.cursor

theorem placeBeside_eq (x : α) (line : List Char) (beside : List (α × List Char)) :
    d.placeBeside style x line beside = (d.turned style).put
      ((Placing.line style x (d.placeLine style x line).2 line beside).marks d.layout)
      ((d.turned style).page.cursor - d.layout.lineHeight style) := by
  have hl : (d.turned style).layout = d.layout := layout_turned
  simp only [placeBeside, placeLine_eq, put_put, layout_put, hl]
  rfl

theorem baseline_eq (x : α) (line : List Char) :
    (d.placeLine style x line).2 = (d.turned style).page.cursor - d.layout.size style := by
  simp [placeLine_eq]

theorem placeBeside_nil (x : α) (line : List Char) :
    d.placeBeside style x line [] = (d.placeLine style x line).1 := by
  simp [placeBeside, placeLine_eq, put_put]
  rfl

-- A document as it comes about, and how its pages are filled by then. No space is negative.
inductive Laid : Document α → Fillings α → Prop
  | empty (layout : Options α) : Laid (empty layout) {}
  | line {d : Document α} {l : Fillings α} (style : Style) (x : α) (text : List Char)
      (beside : List (α × List Char)) : Laid d l →
      Laid (d.placeBeside style x text beside) ((if d.isFull style then l.close else l).put d.layout
        (.line style x (d.placeLine style x text).2 text beside))
  | space {d : Document α} {l : Fillings α} {lines : α} : Laid d l → zero ≤ lines →
      Laid (d.addSpace lines) (l.leave d.layout lines)
  | newPage {d : Document α} {l : Fillings α} : Laid d l →
      Laid d.startNewPage (l.startNew d.layout)
  -- objects are added
  | grow {d : Document α} {l : Fillings α} {s : Store α} : Laid d l → d.store.Grows s →
      Laid { d with store := s } l
  | drawFigure {d : Document α} {l : Fillings α} (id : ObjectId) (matrix : Matrix α) (bottom : α) :
      Laid d l → Laid (d.drawFigure id matrix bottom)
        (l.put d.layout (.figure (figureName (d.figureCount + 1)) matrix (some bottom)))
  | figurePage {d : Document α} {l : Fillings α} (id : ObjectId) (matrix : Matrix α) : Laid d l →
      Laid (d.appendFigurePage id matrix)
        (l.close.put d.layout (.figure (figureName (d.figureCount + 1)) matrix none)).close
  | merge {d other : Document α} {l l' : Fillings α} (i : Nat) : Laid d l → Laid other l' →
      Laid (d.merge other i).2 { finished := spliced (min i d.pageCount) l.all l'.all }

-- What is told of a document is what its pages show.
structure Told (d : Document α) (l : Fillings α) : Prop where
  paged    : d.Paged
  finished : List.Forall₂ Filling.Fills l.finished d.finishedLeaves
  opened   : l.current.isSome = d.current.isSome
  layout   : (l.page d.layout).layout = d.layout
  marks    : d.page.marks = (l.page d.layout).marks

namespace Told

variable {p : Placing α}

theorem all (h : d.Told l) : List.Forall₂ Filling.Fills l.all d.leaves := by
  refine List.rel_append h.finished ?_
  have ho := h.opened
  have hl := h.layout
  have hm := h.marks
  unfold openLeaf
  cases hc : d.current <;> cases hl' : l.current <;>
    simp_all [Fillings.page, page, OpenPage.leaf]
  exact ⟨congrArg (some <| mediaBox <| Options.page ·) hl.symm, rfl⟩

theorem empty (layout : Options α) : (Document.empty layout).Told {} where
  paged    := paged_empty layout
  finished := .nil
  opened   := rfl
  layout   := rfl
  marks    := rfl

theorem isBlank_eq (h : d.Told l) : d.current.any (·.marks.isEmpty) =
    l.current.any (·.placings.isEmpty) := by
  have ho := h.opened
  have hm := h.marks
  cases hc : d.current <;> cases hl : l.current <;> simp_all [Fillings.page, page]
  rw [← Filling.isEmpty_marks]

theorem close (h : d.Told l) : d.closePage.Told l.close where
  paged    := h.paged.closePage
  finished := by
    have ha := h.all
    rwa [← h.paged.leaves_closePage, leaves_of_none current_closePage] at ha
  opened   := by simp [Fillings.close]
  layout   := by simp [Fillings.close, Fillings.page, Filling.blank]
  marks    := by
    simp [page, OpenPage.blank, Fillings.close, Fillings.page, Filling.blank, Filling.marks]

theorem grow (h : d.Told l) (hs : d.store.Grows s) : { d with store := s }.Told l :=
  { h with
    paged    := h.paged.grow hs
    finished := by
      have hf : { d with store := s }.finishedLeaves = d.finishedLeaves :=
        h.paged.finishedLeaves_keeps hs.keeps
      rw [hf]
      exact h.finished }

-- The open page is replaced, and so is what is told of it.
theorem turn (h : d.Told l) {n : Nat} {q : OpenPage α} {c : Filling α}
    (hf : q.figures.find? parentKey = none) (hl : c.layout = d.layout) (hm : q.marks = c.marks) :
    { d with figureCount := n, current := some q }.Told { l with current := some c } where
  paged    := h.paged.turn hf
  finished := h.finished
  opened   := rfl
  layout   := hl
  marks    := hm

theorem put (h : d.Told l) (cursor : α) :
    (d.put (p.marks d.layout) cursor).Told (l.put d.layout p) :=
  h.turn h.paged.figures h.layout (by rw [Filling.marks_put, h.marks, h.layout])

theorem leave (h : d.Told l) (lines cursor : α) :
    (d.put [] cursor).Told (l.leave d.layout lines) :=
  h.turn h.paged.figures (by rw [Filling.layout_leave, h.layout])
    (by rw [Filling.marks_leave, h.marks, List.append_nil])

theorem turned (h : d.Told l) (style : Style) :
    (d.turned style).Told (if d.isFull style then l.close else l) := by
  unfold Document.turned
  split
  · exact h.close
  · exact h

-- The next line goes on a page that has nothing on it, or room for the line.
theorem room (h : d.Told l) (style : Style) :
    ((if d.isFull style then l.close else l).page d.layout).placings = [] ∨
      ¬(d.turned style).page.cursor - d.layout.lineHeight style < d.layout.margin := by
  unfold Document.turned
  cases hf : d.isFull style with
  | true => exact .inl rfl
  | false =>
    have ho := h.opened
    have hm := h.marks
    cases hc : d.current with
    | none =>
      rw [hc, Option.isSome_none, Option.isSome_eq_false_iff, Option.isNone_iff_eq_none] at ho
      simp [Fillings.page, ho, Filling.blank]
    | some p =>
      simp only [page, hc, Option.getD_some] at hm
      cases hp : p.marks.isEmpty with
      | true =>
        rw [hm, Filling.isEmpty_marks, List.isEmpty_iff] at hp
        exact .inl hp
      | false =>
        right
        simpa [isFull, hc, hp, page] using hf

theorem line (h : d.Told l) (style : Style) (x : α) (text : List Char)
    (beside : List (α × List Char)) :
    (d.placeBeside style x text beside).Told
      ((if d.isFull style then l.close else l).put d.layout
        (.line style x (d.placeLine style x text).2 text beside)) := by
  have ht := (h.turned style).put (p := .line style x (d.placeLine style x text).2 text beside)
    ((d.turned style).page.cursor - d.layout.lineHeight style)
  rwa [layout_turned, ← placeBeside_eq] at ht

theorem startNewPage (h : d.Told l) : d.startNewPage.Told (l.startNew d.layout) := by
  unfold Document.startNewPage Fillings.startNew
  rw [h.isBlank_eq]
  split
  case isTrue => exact h
  case isFalse => exact h.close.turn rfl layout_closePage.symm rfl

theorem drawFigure (h : d.Told l) (id : ObjectId) (matrix : Matrix α) (bottom : α) :
    (d.drawFigure id matrix bottom).Told
      (l.put d.layout (.figure (figureName (d.figureCount + 1)) matrix (some bottom))) := by
  rw [drawFigure_eq]
  refine h.turn (find?_figures_draw h.paged.figures ..) h.layout ?_
  rw [Filling.marks_put, ← h.marks]
  rfl

theorem figurePage (h : d.Told l) (id : ObjectId) (matrix : Matrix α) :
    (d.appendFigurePage id matrix).Told
      (l.close.put d.layout (.figure (figureName (d.figureCount + 1)) matrix none)).close := by
  have hn : d.closePage.figureCount = d.figureCount := by
    cases hc : d.current <;> simp [closePage, hc]
  have hb : (OpenPage.blank d.closePage.layout).figures.find? parentKey = none := rfl
  rw [appendFigurePage_eq, openFigurePage, hn]
  refine (h.close.turn (find?_figures_draw hb ..) ?_ ?_).close
  · exact layout_closePage.symm
  · rfl

theorem merge (h : d.Told l) (ho : other.Told l') (i : Nat) :
    (d.merge other i).2.Told { finished := spliced (min i d.pageCount) l.all l'.all } where
  paged    := h.paged.merge ho.paged i
  finished := by
    have hc : (d.merge other i).2.current = none := current_merge i
    rw [← leaves_of_none hc, h.paged.leaves_merge ho.paged]
    refine List.rel_append (List.rel_append (List.forall₂_take _ h.all) ?_)
      (List.forall₂_drop _ h.all)
    rw [List.forall₂_map_right_iff]
    exact ho.all.imp fun _ _ hf => ⟨hf.box, hf.marks⟩
  opened   := by
    have hc : (d.merge other i).2.current = none := current_merge i
    rw [hc]
    rfl
  layout   := rfl
  marks    := by
    have hc : (d.merge other i).2.current = none := current_merge i
    rw [page, hc]
    rfl

end Told

namespace Laid

theorem told (h : Laid d l) : d.Told l := by
  induction h with
  | empty layout => exact .empty layout
  | line style x text beside _ ih => exact ih.line style x text beside
  | space _ _ ih =>
    rw [addSpace_eq]
    exact ih.leave ..
  | newPage _ ih => exact ih.startNewPage
  | grow _ hs ih => exact ih.grow hs
  | drawFigure id matrix bottom _ ih => exact ih.drawFigure id matrix bottom
  | figurePage id matrix _ ih => exact ih.figurePage id matrix
  | merge i _ _ ih ih' => exact ih.merge ih' i

/-! ### Page by page -/

-- What holds of each page in the end holds of each finished one, and of the open one with what is
-- left of it.
structure Holds (P : Filling α → α → Prop) (d : Document α) (l : Fillings α) : Prop where
  finished : ∀ c ∈ l.finished, ∃ cursor, P c cursor
  opened   : P (l.page d.layout) d.page.cursor

namespace Holds

variable {P : Filling α → α → Prop}

theorem all (h : Holds P d l) : ∀ c ∈ l.all, ∃ cursor, P c cursor := by
  intro c hc
  rcases List.mem_append.1 hc with hc | hc
  · exact h.finished c hc
  · refine ⟨d.page.cursor, ?_⟩
    have hopened := h.opened
    rwa [Fillings.page, Option.mem_toList.1 hc] at hopened

theorem close (h : Holds P d l) (hb : ∀ o, P (.blank o) o.top) : Holds P d.closePage l.close where
  finished := h.all
  opened   := by
    rw [page, current_closePage]
    exact hb _

theorem turned (h : Holds P d l) (style : Style) (hb : ∀ o, P (.blank o) o.top) :
    Holds P (d.turned style) (if d.isFull style then l.close else l) := by
  unfold Document.turned
  split
  · exact h.close hb
  · exact h

end Holds

-- What holds of an empty page, and still does when something is put on it or left empty, holds of
-- every page.
theorem page_induction {P : Filling α → α → Prop} (h : Laid d l)
    (blank : ∀ o, P (.blank o) o.top)
    (line : ∀ {c cursor} style x text beside, P c cursor →
      c.placings = [] ∨ ¬cursor - c.layout.lineHeight style < c.layout.margin →
      P (c.put (.line style x (cursor - c.layout.size style) text beside))
        (cursor - c.layout.lineHeight style))
    (space : ∀ {c cursor lines}, P c cursor → zero ≤ lines →
      P (c.leave lines) (larger (cursor - c.layout.lineHeight .body * lines) c.layout.margin))
    (figure : ∀ {c cursor} name matrix bottom, P c cursor →
      P (c.put (.figure name matrix (some bottom)))
        (smaller cursor (bottom - c.layout.lineHeight .body)))
    (figurePage : ∀ o name matrix, P ((Filling.blank o).put (.figure name matrix none)) o.top) :
    Holds P d l := by
  induction h with
  | empty layout => exact ⟨by simp, blank layout⟩
  | line style x text beside h ih =>
    have ht := ih.turned style blank
    have hc := (h.told.turned style).layout
    have hopened := ht.opened
    rw [layout_turned] at hc hopened
    have hp := line style x text beside hopened (by rw [hc]; exact h.told.room style)
    rw [hc, ← baseline_eq x text] at hp
    rw [placeBeside_eq]
    exact ⟨ht.finished, hp⟩
  | space h hn ih =>
    have hp := space ih.opened hn
    rw [h.told.layout] at hp
    rw [addSpace_eq]
    exact ⟨ih.finished, hp⟩
  | newPage h ih =>
    unfold startNewPage Fillings.startNew
    rw [h.told.isBlank_eq]
    split
    · exact ih
    · exact ⟨(ih.close blank).finished, blank _⟩
  | grow _ hs ih => exact ⟨ih.finished, ih.opened⟩
  | @drawFigure d l id matrix bottom h ih =>
    have hp := figure (figureName (d.figureCount + 1)) matrix bottom ih.opened
    rw [h.told.layout] at hp
    exact ⟨ih.finished, hp⟩
  | @figurePage d l id matrix h ih =>
    have hp := figurePage d.layout (figureName (d.figureCount + 1)) matrix
    have hc : (d.openFigurePage id matrix).page.cursor = d.layout.top :=
      congrArg Options.top layout_closePage
    rw [← hc] at hp
    rw [appendFigurePage_eq]
    exact Holds.close ⟨(ih.close blank).finished, hp⟩ blank
  | @merge d other l l' i _ _ ih ih' =>
    refine ⟨fun c hc => (mem_spliced.1 hc).elim (ih.all c) (ih'.all c), ?_⟩
    have hc : (d.merge other i).2.current = none := current_merge i
    rw [page, hc]
    exact blank _

/-! ### All operations -/

theorem placeLine (h : Laid d l) (style : Style) (x : α) (text : List Char) :
    ∃ l', Laid (d.placeLine style x text).1 l' := by
  have hl := h.line style x text []
  rw [placeBeside_nil] at hl
  exact ⟨_, hl⟩

theorem placeLines (h : Laid d l) (style : Style) (x : Options α → List Char → α)
    (lines : List (List Char)) : ∃ l', Laid (d.placeLines style x lines) l' := by
  induction lines generalizing d l with
  | nil => exact ⟨l, h⟩
  | cons line lines ih =>
    obtain ⟨l', hl⟩ := h.placeLine style (x d.layout line) line
    exact ih hl

theorem writeStyled (h : Laid d l) (style : Style) (text : String) :
    ∃ l', Laid (d.writeStyled style text) l' := by
  rw [writeStyled_eq]
  exact h.placeLines ..

theorem writeBlock (h : Laid d l) (block : String) : ∃ l', Laid (d.writeBlock block) l' := by
  unfold Document.writeBlock
  induction Text.lines block.toList generalizing d l with
  | nil => exact ⟨l, h⟩
  | cons line lines ih =>
    obtain ⟨l', hl⟩ := h.writeStyled .body (.ofList line)
    exact ih hl

theorem writeRow (h : Laid d l) (style : Style) (left right : String) :
    ∃ l', Laid (d.writeRow style left right) l' := by
  rw [writeRow_eq]
  cases d.layout.rowLines style left.toList right.toList with
  | nil => exact ⟨l, h⟩
  | cons first lines =>
    let beside := if right.isEmpty then []
      else [(d.layout.rightColumn style right.toList, right.toList)]
    have hl := (h.line style d.layout.margin first beside).placeLines style
      (fun o _ => o.margin) lines
    have hr : (d.placeBeside style d.layout.margin first beside) =
        (d.placeLine style d.layout.margin first).1.put
          (rightMarks d.layout style (d.placeLine style d.layout.margin first).2 right)
          (d.placeLine style d.layout.margin first).1.page.cursor := by
      unfold rightMarks
      cases hr : right.isEmpty <;> simp [placeBeside, beside, hr]
    rw [hr] at hl
    simpa using hl

theorem writing {written : List Bytes} (h : Laid d l) (hw : d.Writing e written) :
    ∃ l', Laid e l' := by
  cases hw with
  | styled style text => exact h.writeStyled style text
  | centered style text =>
    rw [writeCentered_eq]
    exact h.placeLines ..
  | block block => exact h.writeBlock block
  | row style left right => exact h.writeRow style left right

theorem addFigure (h : Laid d l) (figure : Stream α) : Laid (d.addFigure figure).2 l :=
  h.grow <| h.told.paged.tidy.grows_add _

theorem appendFigures (h : Laid d l) (size : Dimensions α)
    (forms : List (Stream α × PageBox α)) : ∃ l', Laid (d.appendFigures size forms) l' := by
  induction forms generalizing d l with
  | nil => exact ⟨l, h⟩
  | cons form forms ih => exact ih <| (h.addFigure form.1).figurePage ..

theorem embedPages (h : Laid d l) (source : Store α) (size : Dimensions α) :
    ∃ l', Laid (d.embedPages source size).2 l' := by
  obtain ⟨l', hl⟩ := h.writeStyled .body (announcement source.pages.length)
  rw [embedPages_eq]
  exact (hl.grow (hl.told.paged.grows_copies source)).appendFigures ..

theorem addPicture (h : Laid d l) (p : Picture.Raster) : Laid (d.addPicture p).2 l := by
  unfold Document.addPicture
  cases p.alpha with
  | none => exact h.addFigure _
  | some alpha => exact (h.addFigure _).addFigure _

theorem drawPicture (h : Laid d l) (p : Picture.Raster) (page : Dimensions α) (proportion : α) :
    ∃ l', Laid (d.drawPicture p page proportion) l' :=
  ⟨_, (h.addPicture p).drawFigure ..⟩

theorem render {σ : Type} {w w' : σ} {r : Renderer} {ctx : Rendering (StateM σ) α}
    {info : AttachmentInfo} {bytes : Bytes} (h : Laid d l)
    (hr : ((r.render ctx d info bytes).run w).run = (.ok e, w')) : ∃ l', Laid e l' :=
  Renderer.render_induction (P := fun e => ∃ l, Laid e l) (h.writeStyled .body) h.embedPages
    h.drawPicture hr

-- Whatever is done to a document, but for a space below zero, lays it out further.
theorem edit (h : Laid d l) (he : d.Edit e) :
    (∃ l', Laid e l') ∨ ∃ lines, ¬zero ≤ lines ∧ e = d.addSpace lines := by
  cases he with
  | text hw => exact .inl <| h.writing hw
  | space lines =>
    by_cases hn : zero ≤ lines
    · exact .inl ⟨_, h.space hn⟩
    · exact .inr ⟨lines, hn, rfl⟩
  | newPage => exact .inl ⟨_, h.newPage⟩
  | addFigure figure => exact .inl ⟨_, h.addFigure figure⟩
  | drawFigure id matrix bottom => exact .inl ⟨_, h.drawFigure id matrix bottom⟩
  | figurePage id matrix => exact .inl ⟨_, h.figurePage id matrix⟩
  | embed data size =>
    cases hr : (d.embed data size).map Prod.snd with
    | error failure => exact .inl ⟨l, h⟩
    | ok e =>
      obtain ⟨source, -, -, rfl⟩ := Renderer.embedPdf_ok_iff.1 hr
      exact .inl <| h.embedPages source size
  | attach r ctx info data w =>
    cases hr : ((r.render ctx d info data).run w).run with
    | mk outcome w' =>
      cases outcome with
      | error failure => exact .inl ⟨l, h⟩
      | ok e => exact .inl <| h.render hr

end Laid
end Document
end AccessReport
