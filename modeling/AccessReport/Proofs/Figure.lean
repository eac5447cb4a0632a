import AccessReport.Proofs.Writing

namespace AccessReport

open Coordinate Pdf

variable {α : Type}

namespace OpenPage

-- Puts an object on a page under a name.
def draw (p : OpenPage α) (name : String) (id : ObjectId) (matrix : Matrix α) (cursor : α) :
    OpenPage α where
  marks   := p.marks ++ [.figure name matrix]
  figures := p.figures.set name (.reference id)
  cursor  := cursor

end OpenPage

namespace Document

variable {n : Nat} {p : OpenPage α} {id : ObjectId} {matrix : Matrix α} {cursor : α}

theorem Named.draw (h : Named n p.marks) :
    Named (n + 1) (p.draw (figureName (n + 1)) id matrix cursor).marks := by
  intro name m hm
  rcases List.mem_append.1 hm with hm | hm
  · obtain ⟨k, hk, hn⟩ := h name m hm
    exact ⟨k, Nat.le_succ_of_le hk, hn⟩
  · cases List.mem_singleton.1 hm
    exact ⟨n + 1, Nat.le_refl _, rfl⟩

-- The new name is none of those on the page.
theorem Named.get?_set (h : Named n p.marks) {name : String} {m : Matrix α}
    (hm : .figure name m ∈ p.marks) (o : Object α) :
    (p.figures.set (figureName (n + 1)) o).get? name = p.figures.get? name := by
  obtain ⟨k, hk, rfl⟩ := h name m hm
  exact Dictionary.get?_set_of_ne _ _ <| ofText_figureName_ne (by omega)

variable [Coordinate α]

theorem Bound.draw {s : Store α} (hb : Bound s p.figures p.marks) (hn : Named n p.marks)
    (hw : s.Whole id) : Bound s (p.draw (figureName (n + 1)) id matrix cursor).figures
      (p.draw (figureName (n + 1)) id matrix cursor).marks := by
  intro name m hm
  rcases List.mem_append.1 hm with hm | hm
  · rw [OpenPage.draw, hn.get?_set hm]
    exact hb name m hm
  · cases List.mem_singleton.1 hm
    exact ⟨id, ofText_figureName_ne_parentKey _, Dictionary.get?_set_self .., hw⟩

theorem view_draw {s : Store α} (hn : Named n p.marks) :
    (p.draw (figureName (n + 1)) id matrix cursor).view s =
      ((p.view s).1 ++ [.figure matrix (some (s.unfolding id))], cursor) := by
  have old : p.marks.map (Mark.shown s (p.figures.set (figureName (n + 1)) (.reference id))) =
      p.marks.map (Mark.shown s p.figures) := by
    apply List.map_congr_left
    intro m hm
    cases m with
    | text => rfl
    | figure name m => simp [Mark.shown, hn.get?_set hm]
  simp [OpenPage.view, OpenPage.draw, old, Mark.shown, Object.reference?]

variable {d d' : Document α} {id' : ObjectId}

theorem drawFigure_eq (bottom : α) :
    d.drawFigure id matrix bottom = { d with
      figureCount := d.figureCount + 1
      current := some <| d.page.draw (figureName (d.figureCount + 1)) id matrix
        (smaller d.page.cursor (bottom - d.layout.lineHeight .body)) } :=
  rfl

-- The page for one object before it is finished.
def openFigurePage (d : Document α) (id : ObjectId) (matrix : Matrix α) : Document α :=
  { d.closePage with
    figureCount := d.closePage.figureCount + 1
    current := some <| (OpenPage.blank d.closePage.layout).draw
      (figureName (d.closePage.figureCount + 1)) id matrix d.closePage.layout.top }

theorem appendFigurePage_eq :
    d.appendFigurePage id matrix = (d.openFigurePage id matrix).closePage :=
  rfl

theorem started_drawFigure {bottom : α} : (d.drawFigure id matrix bottom).Started :=
  ⟨_, rfl, by simp⟩

theorem settled_appendFigurePage : (d.appendFigurePage id matrix).Settled := by
  rw [appendFigurePage_eq]
  exact settled_closePage

namespace Beside

variable {front : List (Sheet α)}

-- On both open pages the object comes behind what is there, so they stay the same.
theorem draw (h : Beside front d d') {p p' : OpenPage α}
    (hb : Bound d.store p.figures p.marks) (hb' : Bound d'.store p'.figures p'.marks)
    (hn : Named d.figureCount p.marks) (hn' : Named d'.figureCount p'.marks)
    (hv : p.view d.store = p'.view d'.store) (ha : d.store.Alike d'.store id id') :
    Beside front
      { d with
        figureCount := d.figureCount + 1
        current := some <| p.draw (figureName (d.figureCount + 1)) id matrix cursor }
      { d' with
        figureCount := d'.figureCount + 1
        current := some <| p'.draw (figureName (d'.figureCount + 1)) id' matrix cursor } :=
  h.turn (h.left.turn (hb.draw hn ha.left) hn.draw) (h.right.turn (hb'.draw hn' ha.right) hn'.draw)
    (by rw [view_draw hn, view_draw hn', hv, ha.unfolding_eq])

theorem drawFigure (h : Beside front d d') (ha : d.store.Alike d'.store id id')
    (matrix : Matrix α) (bottom : α) :
    Beside front (d.drawFigure id matrix bottom) (d'.drawFigure id' matrix bottom) := by
  have hc : smaller d.page.cursor (bottom - d.layout.lineHeight .body) =
      smaller d'.page.cursor (bottom - d'.layout.lineHeight .body) := by
    rw [h.cursor_eq, h.layout]
  rw [drawFigure_eq, drawFigure_eq, hc]
  exact h.draw h.left.bound h.right.bound h.left.named h.right.named h.page_view ha

theorem openFigurePage (h : Beside front d d') (ha : d.store.Alike d'.store id id')
    (matrix : Matrix α) :
    Beside front (d.openFigurePage id matrix) (d'.openFigurePage id' matrix) := by
  have hc := h.closePage
  have ha := ha.keeps h.left.grows_closePage.keeps h.right.grows_closePage.keeps
  unfold Document.openFigurePage
  rw [show d.closePage.layout.top = d'.closePage.layout.top by rw [hc.layout]]
  refine hc.draw ?_ ?_ ?_ ?_ ?_ ha
  all_goals simp [Bound, Named, OpenPage.blank, OpenPage.view, h.layout]

theorem appendFigurePage (h : Beside front d d') (ha : d.store.Alike d'.store id id')
    (matrix : Matrix α) :
    Beside front (d.appendFigurePage id matrix) (d'.appendFigurePage id' matrix) :=
  (h.openFigurePage ha matrix).closePage

end Beside

namespace Sound

theorem continues_drawFigure (h : d.Sound) (matrix : Matrix α) (bottom : α) :
    d.Continues (d.drawFigure id matrix bottom) := by
  rw [drawFigure_eq]
  refine h.continues_turn ?_
  simp [view_draw h.named]

theorem continues_appendFigurePage (h : d.Sound) (hw : d.store.Whole id) (matrix : Matrix α) :
    d.Continues (d.appendFigurePage id matrix) := by
  have hs : (d.openFigurePage id matrix).Sound := ((Beside.refl h).openFigurePage hw matrix).left
  have hc : d.closePage.Continues (d.openFigurePage id matrix) := by
    refine h.closePage.continues_turn ?_
    simp [page, OpenPage.view, OpenPage.blank]
  exact (h.continues_closePage.trans hc).trans hs.continues_closePage

end Sound
end Document
end AccessReport
