import AccessReport.Proofs.Numeral
import AccessReport.Proofs.Sheet

namespace AccessReport

open Pdf

variable {α : Type}

-- What is on an open page, and where its next line hangs.
def OpenPage.view [Coordinate α] (s : Store α) (p : OpenPage α) : List (Shown α) × α :=
  (p.marks.map (Mark.shown s p.figures), p.cursor)

namespace Document

theorem ofText_figureName_ne {k n : Nat} (h : k ≠ n) :
    Bytes.ofText (figureName k) ≠ Bytes.ofText (figureName n) := by
  intro he
  rw [figureName, figureName, Bytes.ofText_append, Bytes.ofText_append] at he
  exact h <| Bytes.ofText_natText_injective <| List.append_cancel_left he

theorem ofText_figureName_ne_parentKey (n : Nat) : Bytes.ofText (figureName n) ≠ parentKey := by
  rw [figureName, Bytes.ofText_append, show Bytes.ofText "X" = [88] by decide, show
    parentKey = [80, 97, 114, 101, 110, 116] by decide]
  simp

-- All names for figures were given out before.
def Named (n : Nat) (marks : List (Mark α)) : Prop :=
  ∀ name matrix, .figure name matrix ∈ marks → ∃ k ≤ n, name = figureName k

variable [Coordinate α]

-- What holds of a document at all times while it is written.
structure Sound (d : Document α) : Prop where
  tidy    : d.store.Tidy
  root    : d.store.trailer.get? "Root" = some (.reference catalogId)
  catalog : d.store.at? catalogId = some (.object catalog)
  tree    : d.store.at? treeId = some (.object (tree []))
  nodup   : d.pageIds.Nodup
  pages   : ∀ id ∈ d.pageIds, HasPage d.store id
  bound   : Bound d.store d.page.figures d.page.marks
  named   : Named d.figureCount d.page.marks

-- The finished pages.
def finished (d : Document α) : List (Sheet α) :=
  d.pageIds.map d.store.sheet

def view (d : Document α) : Option (List (Shown α) × α) :=
  d.current.map (·.view d.store)

def openSheet (d : Document α) : Option (Sheet α) :=
  d.view.map fun v => ⟨some (mediaBox d.layout.page), v.1⟩

-- All pages in their order, the open one included.
def sheets (d : Document α) : List (Sheet α) :=
  d.finished ++ d.openSheet.toList

-- All that is on the pages, in the order in which it was put there.
def shown (d : Document α) : List (Shown α) :=
  d.sheets.flatMap Sheet.shown

def texts (d : Document α) : List Bytes :=
  d.shown.filterMap Shown.codes?

-- Something is on the open page if there is one.
def Settled (d : Document α) : Prop :=
  ∀ p ∈ d.current, p.marks ≠ []

variable {d : Document α}

theorem length_sheets : d.sheets.length = d.pageCount := by
  cases h : d.current <;> simp [sheets, finished, openSheet, view, pageCount, h]

theorem texts_eq_flatMap : d.texts = d.sheets.flatMap Sheet.texts :=
  List.filterMap_flatMap

theorem shown_eq :
    d.shown = d.finished.flatMap Sheet.shown ++ (d.page.view d.store).1 := by
  cases h : d.current <;>
    simp [shown, sheets, openSheet, view, h, page, OpenPage.blank, OpenPage.view]

theorem shown_turn {n : Nat} {p : OpenPage α} :
    { d with figureCount := n, current := some p }.shown =
      d.finished.flatMap Sheet.shown ++ (p.view d.store).1 :=
  shown_eq

theorem sheets_of_none (h : d.current = none) : d.sheets = d.finished := by
  simp [sheets, openSheet, view, h]

theorem sound_empty (layout : Options α) : (empty layout).Sound where
  tidy    := by simp [Store.Tidy, Store.ids, empty, catalogId, boldFontId, regularFontId, treeId]
  root    := rfl
  catalog := rfl
  tree    := rfl
  nodup   := List.nodup_nil
  pages   := by simp [empty]
  bound   := by simp [Bound, page, empty, OpenPage.blank]
  named   := by simp [Named, page, empty, OpenPage.blank]

@[simp]
theorem sheets_empty (layout : Options α) : (empty layout).sheets = [] :=
  rfl

omit [Coordinate α] in
theorem settled_empty (layout : Options α) : (empty layout).Settled := by
  simp [Settled, empty]

namespace Sound

variable {s : Store α}

-- More objects change nothing about the pages.
theorem grow (h : d.Sound) (hs : d.store.Grows s) : { d with store := s }.Sound where
  tidy    := hs.tidy
  root    := by rw [hs.trailer]; exact h.root
  catalog := hs.keeps _ _ h.catalog
  tree    := hs.keeps _ _ h.tree
  nodup   := h.nodup
  pages   := fun id hid => (h.pages id hid).keeps hs.keeps
  bound   := h.bound.keeps hs.keeps
  named   := h.named

theorem finished_grow (h : d.Sound) (hs : d.store.Grows s) :
    { d with store := s }.finished = d.finished :=
  List.map_congr_left fun id hid => (h.pages id hid).sheet_eq hs.keeps

theorem view_grow (h : d.Sound) (hs : d.store.Grows s) :
    { d with store := s }.view = d.view := by
  have hb := h.bound
  cases hc : d.current with
  | none => simp [view, hc]
  | some p =>
    simp only [page, hc, Option.getD_some] at hb
    simp [view, OpenPage.view, hc, hb.shown_eq hs.keeps]

theorem sheets_grow (h : d.Sound) (hs : d.store.Grows s) :
    { d with store := s }.sheets = d.sheets := by
  rw [sheets, sheets, openSheet, openSheet, h.finished_grow hs, h.view_grow hs]

theorem shown_grow (h : d.Sound) (hs : d.store.Grows s) :
    { d with store := s }.shown = d.shown := by
  rw [shown, shown, h.sheets_grow hs]

-- The open page is replaced.
theorem turn (h : d.Sound) {n : Nat} {p : OpenPage α} (hb : Bound d.store p.figures p.marks)
    (hn : Named n p.marks) : { d with figureCount := n, current := some p }.Sound :=
  { h with
    bound := hb
    named := hn }

end Sound

-- A page with its content, behind the objects that are there.
def stored (s : Store α) (size : Dimensions α) (p : OpenPage α) : ObjectId × Store α :=
  let (content, s) := s.add (.stream (Stream.make [] (.drawing p.marks)))
  s.add (.object (pageObject size content p.figures))

section Stored

variable {s : Store α} {size : Dimensions α} {p : OpenPage α}

theorem grows_stored (h : s.Tidy) : s.Grows (stored s size p).2 :=
  (h.grows_add _).trans <| (h.add _).grows_add _

theorem number_stored : (stored s size p).1.number = s.maxId + 2 :=
  rfl

def pageEntries (size : Dimensions α) (content : ObjectId) (figures : Dictionary α) :
    Dictionary α :=
  ((pageObject size content figures).dictionary?).getD []

omit [Coordinate α] in
theorem figures_pageEntries (content : ObjectId) (figures : Dictionary α) :
    (pageEntries size content figures).figures = figures := by
  cases figures <;> rfl

-- The objects that a page is closed with.
def closedPage (s : Store α) (size : Dimensions α) (p : OpenPage α) : PageRecord α where
  entries := pageEntries size s.nextId p.figures
  content := s.nextId
  stream  := Stream.make [] (.drawing p.marks)
  marks   := p.marks
  size    := size

theorem liesIn_stored (h : s.Tidy) :
    (closedPage s size p).LiesIn (stored s size p).2 (stored s size p).1 where
  page     := Store.at?_add ..
  type     := rfl
  parent   := rfl
  box      := rfl
  contents := rfl
  stream   := (h.add _).keeps_add _ _ _ <| Store.at?_add ..
  drawing  := rfl

theorem isAt_stored (h : s.Tidy) (hb : Bound s p.figures p.marks) :
    PageRecord.IsAt ⟨pageEntries size s.nextId p.figures, s.nextId,
      Stream.make [] (.drawing p.marks), p.marks, size⟩ (stored s size p).2
      (stored s size p).1 :=
  { liesIn_stored h with
    bound := by
      rw [figures_pageEntries]
      exact hb.keeps (grows_stored h).keeps }

theorem sheet_stored (h : s.Tidy) (hb : Bound s p.figures p.marks) :
    (stored s size p).2.sheet (stored s size p).1 =
      ⟨some (mediaBox size), p.marks.map (Mark.shown s p.figures)⟩ := by
  rw [(isAt_stored h hb).sheet_eq, figures_pageEntries, hb.shown_eq (grows_stored h).keeps]

end Stored

theorem closePage_of_some {p : OpenPage α} (h : d.current = some p) :
    d.closePage = { d with
      store := (stored d.store d.layout.page p).2
      pageIds := d.pageIds ++ [(stored d.store d.layout.page p).1]
      current := none } := by
  simp [closePage, h, stored]

theorem closePage_of_none (h : d.current = none) : d.closePage = d := by
  simp [closePage, h]

@[simp]
theorem current_closePage : d.closePage.current = none := by
  cases h : d.current <;> simp [closePage, h]

@[simp]
theorem layout_closePage : d.closePage.layout = d.layout := by
  cases h : d.current <;> simp [closePage, h]

theorem settled_closePage : d.closePage.Settled := by
  simp [Settled]

theorem grows_closePage (h : d.store.Tidy) : d.store.Grows d.closePage.store := by
  cases hc : d.current with
  | none =>
    rw [closePage_of_none hc]
    exact .refl h
  | some p =>
    rw [closePage_of_some hc]
    exact grows_stored h

namespace Sound

theorem notMem_pageIds (h : d.Sound) {id : ObjectId} (hid : d.store.maxId < id.number) :
    id ∉ d.pageIds := by
  intro hm
  obtain ⟨p, hp⟩ := h.pages id hm
  have := h.tidy.number_le hp.page
  omega

theorem closePage (h : d.Sound) : d.closePage.Sound := by
  cases hc : d.current with
  | none => rwa [closePage_of_none hc]
  | some p =>
    have hb : Bound d.store p.figures p.marks := by simpa [page, hc] using h.bound
    have hg : d.store.Grows (stored d.store d.layout.page p).2 := grows_stored h.tidy
    rw [closePage_of_some hc]
    refine { h.grow hg with nodup := ?_, pages := ?_, bound := ?_, named := ?_ }
    · have hid : (stored d.store d.layout.page p).1 ∉ d.pageIds :=
        h.notMem_pageIds (by rw [number_stored]; omega)
      rw [← List.concat_eq_append]
      exact h.nodup.concat hid
    · intro id hid
      rcases List.mem_append.1 hid with hid | hid
      · exact (h.pages id hid).keeps hg.keeps
      · rw [List.mem_singleton.1 hid]
        exact ⟨_, isAt_stored h.tidy hb⟩
    · simp [Bound, page, OpenPage.blank]
    · simp [Named, page, OpenPage.blank]

theorem grows_closePage (h : d.Sound) : d.store.Grows d.closePage.store :=
  Document.grows_closePage h.tidy

theorem finished_closePage (h : d.Sound) : d.closePage.finished = d.sheets := by
  cases hc : d.current with
  | none => rw [closePage_of_none hc, sheets_of_none hc]
  | some p =>
    have hb : Bound d.store p.figures p.marks := by simpa [page, hc] using h.bound
    have hs : d.store.Grows (stored d.store d.layout.page p).2 := grows_stored h.tidy
    have hf := h.finished_grow hs
    rw [closePage_of_some hc]
    simp only [finished, List.map_append, List.map_cons, List.map_nil] at hf ⊢
    rw [hf, sheet_stored h.tidy hb]
    simp [sheets, finished, openSheet, view, OpenPage.view, hc]

theorem sheets_closePage (h : d.Sound) : d.closePage.sheets = d.sheets := by
  rw [sheets_of_none current_closePage, h.finished_closePage]

theorem shown_closePage (h : d.Sound) : d.closePage.shown = d.shown := by
  rw [shown, h.sheets_closePage, shown]

end Sound

end Document
end AccessReport
