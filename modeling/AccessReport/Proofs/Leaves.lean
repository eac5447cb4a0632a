import AccessReport.Proofs.Finishing
import AccessReport.Proofs.Writing

namespace AccessReport

open Pdf

variable {α : Type}

namespace Pdf.Object

variable {f : ObjectId → ObjectId}

theorem reference?_renumber (o : Object α) : (o.renumber f).reference? = o.reference?.map f := by
  cases o <;> simp [renumber, reference?]

theorem dictionary?_renumber (o : Object α) :
    (o.renumber f).dictionary? = o.dictionary?.map (renumberEntries f) := by
  cases o <;> simp [renumber, dictionary?]

end Pdf.Object

-- A page by what it is made of: its box, what was put on it, and the objects it has names for.
structure Leaf (α : Type) where
  box       : Option (Object α)
  marks     : List (Mark α)
  resources : Option (Object α)

namespace Leaf

-- The object behind a name, fonts and things that are drawn being categories of their own.
def resource? (l : Leaf α) (category name : Bytes) : Option ObjectId :=
  let names := ((l.resources.bind Object.dictionary?).bind (Dictionary.find? · category)).bind
    Object.dictionary?
  (names.bind (Dictionary.find? · name)).bind Object.reference?

def renumber (f : ObjectId → ObjectId) (l : Leaf α) : Leaf α :=
  { l with resources := l.resources.map (Object.renumber f) }

-- The lines of text that were put on the page.
def lines (l : Leaf α) : List Bytes :=
  l.marks.filterMap Document.codes?

-- The texts that are read from the page once its content is written out.
def texts [Coordinate α] (l : Leaf α) : List String :=
  (shownStrings (operations (marksBytes l.marks) : List (Operation α))).map Bytes.toText

-- No name is the one that a copy drops.
def Named (l : Leaf α) : Prop :=
  ∀ category name, (l.resource? category name).isSome → category ≠ parentKey ∧ name ≠ parentKey

variable {l : Leaf α} {f : ObjectId → ObjectId} {category name : Bytes}

theorem resource?_renumber :
    (l.renumber f).resource? category name =
      if category = parentKey ∨ name = parentKey then none
      else (l.resource? category name).map f := by
  unfold resource? renumber
  dsimp only
  rcases l.resources with _ | o
  · simp
  simp only [Option.map_some, Option.bind_some, Object.dictionary?_renumber]
  rcases o.dictionary? with _ | entries
  · simp
  simp only [Option.map_some, Option.bind_some, Object.find?_renumberEntries]
  by_cases hc : category = parentKey
  · simp [hc]
  rw [if_neg hc]
  rcases entries.find? category with _ | o
  · simp
  simp only [Option.map_some, Option.bind_some, Object.dictionary?_renumber]
  rcases o.dictionary? with _ | names
  · simp
  simp only [Option.map_some, Option.bind_some, Object.find?_renumberEntries]
  by_cases hn : name = parentKey
  · simp [hn]
  rw [if_neg hn]
  rcases names.find? name with _ | o <;> simp [hc, hn, Object.reference?_renumber]

-- In a copy all names are there again, each for the copy of what it stood for.
theorem Named.resource?_renumber (h : l.Named) (f : ObjectId → ObjectId) (category name : Bytes) :
    (l.renumber f).resource? category name = (l.resource? category name).map f := by
  rw [Leaf.resource?_renumber]
  split
  case isTrue hp =>
    cases hr : l.resource? category name with
    | none => rfl
    | some id =>
      have := h category name (by simp [hr])
      tauto
  case isFalse => rfl

theorem Named.renumber (h : l.Named) (f : ObjectId → ObjectId) : (l.renumber f).Named := by
  intro category name hs
  rw [h.resource?_renumber, Option.isSome_map] at hs
  exact h category name hs

end Leaf

namespace Pdf.Store

def leaf (s : Store α) (page : ObjectId) : Leaf α :=
  let entries := ((s.at? page).bind Indirect.dictionary?).getD []
  let marks := (((entries.get? "Contents").bind Object.reference?).map s.drawing).getD []
  ⟨entries.get? "MediaBox", marks, entries.get? "Resources"⟩

end Pdf.Store

def OpenPage.leaf [Coordinate α] (p : OpenPage α) (size : Dimensions α) : Leaf α :=
  ⟨some (Document.mediaBox size), p.marks, some (Document.resources p.figures)⟩

namespace Document

namespace PageRecord

def leaf (p : PageRecord α) : Leaf α :=
  ⟨some (mediaBox p.size), p.marks, p.entries.get? "Resources"⟩

-- The content is as it was written, and a copy of the page has all its names.
structure Clean (p : PageRecord α) : Prop where
  content : p.stream.entries.get? "Filter" = none
  named   : p.leaf.Named

end PageRecord

-- The number of a finished page.
def IsPage (s : Store α) (id : ObjectId) : Prop :=
  ∃ p : PageRecord α, p.LiesIn s id ∧ p.Clean

variable [Coordinate α] {d : Document α} {s s' : Store α} {id : ObjectId} {size : Dimensions α}

namespace PageRecord.LiesIn

variable {p : PageRecord α}

omit [Coordinate α] in
theorem leaf_eq (h : p.LiesIn s id) : s.leaf id = p.leaf := by
  simp [Store.leaf, h.page, Indirect.dictionary?, Indirect.object?, Object.dictionary?, h.box,
    h.contents, Object.reference?, h.drawing_eq, PageRecord.leaf]

theorem pageContent_eq (h : p.LiesIn s id) (hc : p.Clean) :
    s.pageContent id = marksBytes p.marks := by
  have hs : s.contentIds (Store.referenceLimit - 1) (.reference p.content) = [p.content] := by
    rw [Store.contentIds, h.stream]
  have hg : s.get? p.content = some (.stream p.stream) :=
    Store.get?_of_at? h.stream (by simp)
  have hf : p.stream.filters? = none := by
    rw [Stream.filters?, hc.content]
  have hb : p.stream.plainContent = marksBytes p.marks := by
    simp [Stream.plainContent, Stream.decoded?, hf, Stream.content, h.drawing, Body.content]
  simp [Store.pageContent, Store.dictionary?_of_at? h.page, h.contents, hs, hg, Indirect.stream?, hb]

end PageRecord.LiesIn

/-! ### The open page -/

-- What the names for fonts stand for, on every page.
def fonts : Dictionary α :=
  Dictionary.ofList [
    (Options.regularFont, .reference regularFontId), (Options.boldFont, .reference boldFontId)]

theorem resource?_leaf (p : OpenPage α) (category name : Bytes) :
    (p.leaf size).resource? category name =
      if category = Bytes.ofText "XObject" then (p.figures.find? name).bind Object.reference?
      else if category = Bytes.ofText "Font" then
        ((fonts : Dictionary α).find? name).bind Object.reference?
      else none := by
  have hr : resources p.figures = .dictionary (Dictionary.ofList (("Font", .dictionary fonts) ::
      (if p.figures.isEmpty then [] else [("XObject", .dictionary p.figures)]))) := rfl
  have hne : Bytes.ofText "Font" ≠ Bytes.ofText "XObject" := by decide
  simp only [Leaf.resource?, OpenPage.leaf, hr, Option.bind_some, Object.dictionary?]
  generalize (fonts : Dictionary α) = names
  cases p.figures with
  | nil =>
    simp only [List.isEmpty_nil, if_true, Dictionary.ofList, List.foldl_cons, List.foldl_nil,
      Dictionary.set, Dictionary.find?_put, Dictionary.find?_nil]
    split <;> simp_all [Object.dictionary?]
  | cons e figures =>
    simp only [List.isEmpty_cons, Bool.false_eq_true, if_false, Dictionary.ofList, List.foldl_cons,
      List.foldl_nil, Dictionary.set, Dictionary.find?_put, Dictionary.find?_nil]
    split
    · simp [Object.dictionary?]
    · split <;> simp [Object.dictionary?]

theorem named_leaf {p : OpenPage α} (h : p.figures.find? parentKey = none) :
    (p.leaf size).Named := by
  intro category name hs
  rw [resource?_leaf] at hs
  split at hs
  case isTrue hc =>
    refine ⟨hc ▸ by decide, ?_⟩
    rintro rfl
    simp [h] at hs
  case isFalse =>
    split at hs
    case isTrue hc =>
      refine ⟨hc ▸ by decide, ?_⟩
      rintro rfl
      have hf : fonts.find? parentKey = (none : Option (Object α)) := by rfl
      simp [hf] at hs
    case isFalse => cases hs

/-! ### Finished pages -/

theorem clean_closedPage {p : OpenPage α} (h : p.figures.find? parentKey = none) :
    (closedPage s size p).Clean where
  content := rfl
  named   := named_leaf h

namespace IsPage

omit [Coordinate α] in
theorem keeps (h : IsPage s id) (hk : s.Keeps s') : IsPage s' id := by
  obtain ⟨p, hp, hc⟩ := h
  exact ⟨p, hp.keeps hk, hc⟩

omit [Coordinate α] in
theorem leaf_eq (h : IsPage s id) (hk : s.Keeps s') : s'.leaf id = s.leaf id := by
  obtain ⟨p, hp, -⟩ := h
  rw [hp.leaf_eq, (hp.keeps hk).leaf_eq]

omit [Coordinate α] in
theorem named (h : IsPage s id) : (s.leaf id).Named := by
  obtain ⟨p, hp, hc⟩ := h
  exact hp.leaf_eq ▸ hc.named

theorem pageContent_eq (h : IsPage s id) : s.pageContent id = marksBytes (s.leaf id).marks := by
  obtain ⟨p, hp, hc⟩ := h
  rw [hp.pageContent_eq hc, hp.leaf_eq, PageRecord.leaf]

end IsPage

-- The finished pages.
def finishedLeaves (d : Document α) : List (Leaf α) :=
  d.pageIds.map d.store.leaf

def openLeaf (d : Document α) : Option (Leaf α) :=
  d.current.map (·.leaf d.layout.page)

-- All pages in their order, the open one included.
def leaves (d : Document α) : List (Leaf α) :=
  d.finishedLeaves ++ d.openLeaf.toList

def boxes (d : Document α) : List (Option (Object α)) :=
  d.leaves.map Leaf.box

-- The lines of text on all pages.
def lines (d : Document α) : List Bytes :=
  d.leaves.flatMap Leaf.lines

-- What holds of a document at all times, whatever is drawn in it.
structure Paged (d : Document α) : Prop where
  tidy    : d.store.Tidy
  root    : d.store.trailer.get? "Root" = some (.reference catalogId)
  catalog : d.store.at? catalogId = some (.object catalog)
  tree    : d.store.at? treeId = some (.object (tree []))
  nodup   : d.pageIds.Nodup
  pages   : ∀ id ∈ d.pageIds, IsPage d.store id
  figures : d.page.figures.find? parentKey = none

omit [Coordinate α] in
theorem length_finishedLeaves : d.finishedLeaves.length = d.currentIndex := by
  simp [finishedLeaves, currentIndex]

theorem length_leaves : d.leaves.length = d.pageCount := by
  cases h : d.current <;> simp [leaves, finishedLeaves, openLeaf, pageCount, h]

theorem leaves_of_none (h : d.current = none) : d.leaves = d.finishedLeaves := by
  simp [leaves, openLeaf, h]

theorem leaves_of_some {p : OpenPage α} (h : d.current = some p) :
    d.leaves = d.finishedLeaves ++ [p.leaf d.layout.page] := by
  simp [leaves, openLeaf, h]

theorem lines_eq : d.lines = d.finishedLeaves.flatMap Leaf.lines ++ d.page.marks.filterMap codes? := by
  cases h : d.current <;>
    simp [lines, leaves, openLeaf, h, page, OpenPage.blank, OpenPage.leaf, Leaf.lines]

theorem paged_empty (layout : Options α) : (empty layout).Paged where
  tidy    := (sound_empty layout).tidy
  root    := rfl
  catalog := rfl
  tree    := rfl
  nodup   := List.nodup_nil
  pages   := by simp [empty]
  figures := rfl

theorem leaf_stored (h : s.Tidy) (p : OpenPage α) :
    (stored s size p).2.leaf (stored s size p).1 = p.leaf size := by
  rw [(liesIn_stored h).leaf_eq]
  rfl

namespace Paged

theorem finishedLeaves_keeps (h : d.Paged) (hk : d.store.Keeps s) :
    d.pageIds.map s.leaf = d.finishedLeaves :=
  List.map_congr_left fun id hid => (h.pages id hid).leaf_eq hk

theorem notMem_pageIds (h : d.Paged) (hid : d.store.maxId < id.number) : id ∉ d.pageIds := by
  intro hm
  obtain ⟨p, hp, -⟩ := h.pages id hm
  have := h.tidy.number_le hp.page
  omega

theorem ne_treeId (h : d.Paged) (hid : id ∈ d.pageIds) : id ≠ treeId := by
  obtain ⟨p, hp, -⟩ := h.pages id hid
  exact hp.ne_treeId h.tree

-- More objects change nothing about the pages.
theorem grow (h : d.Paged) (hs : d.store.Grows s) : { d with store := s }.Paged where
  tidy    := hs.tidy
  root    := by rw [hs.trailer]; exact h.root
  catalog := hs.keeps _ _ h.catalog
  tree    := hs.keeps _ _ h.tree
  nodup   := h.nodup
  pages   := fun id hid => (h.pages id hid).keeps hs.keeps
  figures := h.figures

theorem leaves_grow (h : d.Paged) (hk : d.store.Keeps s) :
    { d with store := s }.leaves = d.leaves :=
  congrArg (· ++ d.openLeaf.toList) (h.finishedLeaves_keeps hk)

-- The open page is replaced.
theorem turn (h : d.Paged) {n : Nat} {p : OpenPage α} (hf : p.figures.find? parentKey = none) :
    { d with figureCount := n, current := some p }.Paged :=
  { h with figures := hf }

theorem closePage (h : d.Paged) : d.closePage.Paged := by
  cases hc : d.current with
  | none => rwa [closePage_of_none hc]
  | some p =>
    have hf : p.figures.find? parentKey = none := by simpa [page, hc] using h.figures
    have hg : d.store.Grows (stored d.store d.layout.page p).2 := grows_stored h.tidy
    rw [closePage_of_some hc]
    refine { h.grow hg with nodup := ?_, pages := ?_, figures := rfl }
    · have hid : (stored d.store d.layout.page p).1 ∉ d.pageIds :=
        h.notMem_pageIds (by rw [number_stored]; omega)
      rw [← List.concat_eq_append]
      exact h.nodup.concat hid
    · intro id hid
      rcases List.mem_append.1 hid with hid | hid
      · exact (h.pages id hid).keeps hg.keeps
      · rw [List.mem_singleton.1 hid]
        exact ⟨_, liesIn_stored h.tidy, clean_closedPage hf⟩

theorem leaves_closePage (h : d.Paged) : d.closePage.leaves = d.leaves := by
  cases hc : d.current with
  | none => rw [closePage_of_none hc]
  | some p =>
    have hs : d.store.Grows (stored d.store d.layout.page p).2 := grows_stored h.tidy
    rw [leaves_of_none current_closePage, leaves_of_some hc, closePage_of_some hc, finishedLeaves]
    rw [List.map_append, h.finishedLeaves_keeps hs.keeps]
    exact congrArg (_ ++ [·]) (leaf_stored h.tidy p)

theorem named (h : d.Paged) {l : Leaf α} (hl : l ∈ d.leaves) : l.Named := by
  rw [← h.leaves_closePage, leaves_of_none current_closePage] at hl
  obtain ⟨id, hid, rfl⟩ := List.mem_map.1 hl
  exact (h.closePage.pages id hid).named

end Paged

-- What the open page shows is the same before its content is written out and after it is read back.
def Legible (d : Document α) : Prop :=
  ∀ p, d.current = some p →
    shownStrings (operations (marksBytes p.marks) : List (Operation α)) =
      shownStrings (p.marks.flatMap Mark.operations)

instance (d : Document α) : Decidable d.Legible :=
  match h : d.current with
  | none   => .isTrue fun _ hp => nomatch h.symm.trans hp
  | some p =>
    decidable_of_iff (shownStrings (operations (marksBytes p.marks) : List (Operation α)) =
        shownStrings (p.marks.flatMap Mark.operations))
      ⟨fun hl _ hq => Option.some.inj (h.symm.trans hq) ▸ hl, fun hl => hl p h⟩

namespace Paged

theorem finishedTexts_eq (h : d.Paged) :
    d.pageIds.map (fun id => (d.store.pageStrings id).map Bytes.toText) =
      d.finishedLeaves.map Leaf.texts := by
  rw [finishedLeaves, List.map_map]
  refine List.map_congr_left fun id hid => ?_
  rw [Store.pageStrings, (h.pages id hid).pageContent_eq, Function.comp_apply, Leaf.texts]

theorem pageTexts_eq (h : d.Paged) (hl : d.Legible) : d.pageTexts = d.leaves.map Leaf.texts := by
  cases hc : d.current with
  | none => simp [pageTexts, hc, h.finishedTexts_eq, leaves_of_none hc]
  | some p =>
    simp [pageTexts, hc, h.finishedTexts_eq, leaves_of_some hc, Leaf.texts, OpenPage.leaf, hl p hc]

theorem take_pageTexts (h : d.Paged) :
    d.pageTexts.take d.currentIndex = d.finishedLeaves.map Leaf.texts := by
  have hl : (d.finishedLeaves.map Leaf.texts).length = d.currentIndex := by
    rw [List.length_map, length_finishedLeaves]
  cases hc : d.current with
  | none => simp only [pageTexts, hc, h.finishedTexts_eq, ← hl, List.take_length]
  | some p => simp only [pageTexts, hc, h.finishedTexts_eq, List.take_left' hl]

end Paged

theorem length_pageTexts : d.pageTexts.length = d.pageCount := by
  cases hc : d.current <;> simp [pageTexts, pageCount, hc]

end Document
end AccessReport
