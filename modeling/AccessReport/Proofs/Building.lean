import AccessReport.Proofs.Splicing

namespace AccessReport

open Coordinate Pdf

variable {α : Type} [Coordinate α]

namespace Document

variable {d e other : Document α} {sizes sizes' : List (Dimensions α)} {written : List Bytes}
  {s : Store α} {id : ObjectId} {size : Dimensions α}

-- A document as it can come about, and the sizes that its pages were laid out with.
inductive Built : Document α → List (Dimensions α) → Prop
  | empty (layout : Options α) : Built (empty layout) []
  | edit {d e : Document α} {sizes : List (Dimensions α)} : Built d sizes → d.Edit e →
      Built e (sizes ++ List.replicate (e.pageCount - d.pageCount) d.layout.page)
  | merge {d other : Document α} {sizes sizes' : List (Dimensions α)} (i : Nat) :
      Built d sizes → Built other sizes' →
      Built (d.merge other i).2 (spliced (min i d.pageCount) sizes sizes')

theorem length_boxes : d.boxes.length = d.pageCount := by
  rw [boxes, List.length_map, length_leaves]

/-! ### Merging -/

theorem current_merge (i : Nat) : (d.merge other i).2.current = none := by
  rw [merge_eq]
  exact current_closePage

theorem Paged.merge (h : d.Paged) (ho : other.Paged) (i : Nat) : (d.merge other i).2.Paged := by
  rw [merge_eq]
  exact h.closePage.inserted ho.closePage _

theorem Paged.leaves_merge (h : d.Paged) (ho : other.Paged) (i : Nat) :
    (d.merge other i).2.leaves = spliced (min i d.pageCount) d.leaves
      (other.leaves.map
        (Leaf.renumber (d.closePage.copier other.closePage).numbering.apply)) := by
  rw [merge_eq, h.closePage.leaves_inserted ho.closePage current_closePage current_closePage,
    h.leaves_closePage, ho.leaves_closePage]

theorem Paged.boxes_merge (h : d.Paged) (ho : other.Paged) (i : Nat) :
    (d.merge other i).2.boxes = spliced (min i d.pageCount) d.boxes other.boxes := by
  rw [boxes, h.leaves_merge ho, map_spliced, List.map_map]
  rfl

/-! ### Documents as they come about -/

theorem Extends.boxes_eq (h : d.Extends e written) :
    e.boxes = d.boxes ++
      List.replicate (e.pageCount - d.pageCount) (some (mediaBox d.layout.page)) := by
  obtain ⟨k, hk⟩ := h.boxes
  have hl := congrArg List.length hk
  simp only [List.length_append, length_boxes, List.length_replicate] at hl
  rw [hk, hl, Nat.add_sub_cancel_left]

theorem Extends.pageCount_le (h : d.Extends e written) : d.pageCount ≤ e.pageCount := by
  have hl := congrArg List.length h.boxes_eq
  simp only [List.length_append, length_boxes] at hl
  omega

namespace Built

theorem paged (h : Built d sizes) : d.Paged := by
  induction h with
  | empty layout => exact paged_empty layout
  | edit _ he ih =>
    obtain ⟨_, h⟩ := ih.extends_edit he
    exact h.paged
  | merge i _ _ ih ih' => exact ih.merge ih' i

-- Each page has the size that it was laid out with.
theorem boxes_eq (h : Built d sizes) : d.boxes = sizes.map fun size => some (mediaBox size) := by
  induction h with
  | empty layout => rfl
  | edit h he ih =>
    obtain ⟨_, h⟩ := h.paged.extends_edit he
    rw [h.boxes_eq, ih, List.map_append, List.map_replicate]
  | merge i h h' ih ih' =>
    rw [h.paged.boxes_merge h'.paged, ih, ih', map_spliced]

end Built

/-! ### The pages of a document -/

-- A page right below the root of the tree.
def HasDictionary (s : Store α) (id : ObjectId) (size : Dimensions α) : Prop :=
  ∃ entries : Dictionary α, s.at? id = some (.object (.dictionary entries)) ∧
    entries.get? "Type" = some (.named "Page") ∧
    entries.get? "Parent" = some (.reference treeId) ∧
    entries.get? "MediaBox" = some (mediaBox size)

omit [Coordinate α] in
theorem IsPage.hasDictionary (h : IsPage s id) (hb : (s.leaf id).box = some (mediaBox size)) :
    HasDictionary s id size := by
  obtain ⟨p, hp, -⟩ := h
  rw [hp.leaf_eq] at hb
  exact ⟨p.entries, hp.page, hp.type, hp.parent, hp.box.trans hb⟩

-- What an operation leaves of a document that it is done to: the pages in front of the open one are
-- what they were, the open one gets more at most, and no page is lost or moved.
structure Preserves (d e : Document α) : Prop where
  pageIds : d.pageIds <+: e.pageIds
  objects : d.store.Keeps e.store
  leaves  : e.leaves.take d.currentIndex = d.leaves.take d.currentIndex
  texts   : e.pageTexts.take d.currentIndex = d.pageTexts.take d.currentIndex
  opened  : ∀ p, d.current = some p → ∃ l, e.leaves[d.currentIndex]? = some l ∧
              l.box = some (mediaBox d.layout.page) ∧ p.marks <+: l.marks
  count   : d.pageCount ≤ e.pageCount

theorem Extends.preserves (h : d.Extends e written) (hd : d.Paged) : d.Preserves e where
  pageIds := h.pageIds
  objects := h.store.keeps
  leaves  := by
    obtain ⟨new, hn⟩ := (h.finishedLeaves hd).trans finishedLeaves_prefix
    rw [← hn, leaves, List.take_left' length_finishedLeaves, List.take_left' length_finishedLeaves]
  texts   := by
    obtain ⟨new, hn⟩ := h.finishedLeaves hd
    have hi : min d.currentIndex e.currentIndex = d.currentIndex :=
      Nat.min_eq_left h.pageIds.length_le
    rw [hd.take_pageTexts, ← hi, ← List.take_take, h.paged.take_pageTexts, ← hn, List.map_append,
      List.take_left' (by rw [List.length_map, length_finishedLeaves])]
  opened  := by
    intro p hp
    obtain ⟨l, hl, hm⟩ := h.opened p hp
    refine ⟨l, hl, ?_, hm⟩
    have hd : d.boxes[d.currentIndex]? = some (some (mediaBox d.layout.page)) := by
      rw [Document.boxes, List.getElem?_map, getElem?_currentIndex, openLeaf, hp]
      rfl
    have he : e.boxes[d.currentIndex]? = some l.box := by
      rw [Document.boxes, List.getElem?_map, hl]
      rfl
    rw [h.boxes_eq, List.getElem?_append_left (List.getElem?_eq_some_iff.1 hd).1, hd] at he
    exact (Option.some.inj he).symm
  count   := h.pageCount_le

-- How the finished file names its pages: all of them below one root, in their order and each with
-- its size.
structure Files (d : Document α) (sizes : List (Dimensions α)) (ids : List ObjectId) : Prop where
  root     : d.finish.catalog?.bind (Dictionary.get? · "Pages") = some (.reference treeId)
  tree     : ∃ entries : Dictionary α, d.finish.at? treeId = some (.object (.dictionary entries)) ∧
               entries.get? "Type" = some (.named "Pages") ∧
               entries.get? "Count" = some (.count d.pageCount) ∧
               entries.get? "Kids" = some (.array (ids.map .reference))
  front    : d.pageIds <+: ids
  distinct : ids.Nodup
  -- the pages are those of the document, the open one behind the others
  leaves   : ids.map d.closePage.store.leaf = d.leaves
  objects  : ∀ id ∈ ids, d.finish.at? id = d.closePage.store.at? id
  pages    : List.Forall₂ (HasDictionary d.finish) ids sizes

namespace Paged

theorem hasDictionary (h : d.Paged)
    (hb : d.finishedLeaves.map Leaf.box = sizes.map fun size => some (mediaBox size)) :
    List.Forall₂ (HasDictionary d.store) d.pageIds sizes := by
  rw [finishedLeaves, List.map_map, ← List.forall₂_eq_eq_eq, List.forall₂_map_left_iff,
    List.forall₂_map_right_iff] at hb
  have hp := (List.forall₂_and_left _ _).2 ⟨h.pages, hb⟩
  exact hp.imp fun _ _ hi => hi.1.hasDictionary hi.2

-- Finishing changes nothing about the dictionaries of pages.
theorem at?_finish (h : d.Paged) (hid : id ∈ d.closePage.pageIds) :
    d.finish.at? id = d.closePage.store.at? id := by
  obtain ⟨p, hp, -⟩ := h.closePage.pages id hid
  rw [hp.page]
  refine Document.at?_finish ?_
  rw [Store.at?_insert, if_neg (h.closePage.ne_treeId hid), hp.page]

theorem files (h : d.Paged) (hb : d.boxes = sizes.map fun size => some (mediaBox size)) :
    d.Files sizes d.closePage.pageIds where
  root     := by
    rw [Store.catalog?, trailer_finish, h.closePage.root]
    simp only [Option.bind_some, Object.reference?, dictionary?_catalog_finish h.closePage.catalog]
    rfl
  tree     := by
    refine ⟨_, Document.at?_finish (by rw [Store.at?_insert, if_pos rfl]; rfl), rfl, ?_, rfl⟩
    rw [← length_pageIds_closePage]
    rfl
  front    := h.extends_closePage.pageIds
  distinct := h.closePage.nodup
  leaves   := by
    rw [← h.leaves_closePage, leaves_of_none current_closePage]
    rfl
  objects  := fun _ => h.at?_finish
  pages    := by
    rw [boxes, ← h.leaves_closePage, leaves_of_none current_closePage] at hb
    have hp := (List.forall₂_and_left _ _).2 ⟨fun _ => h.at?_finish, h.closePage.hasDictionary hb⟩
    refine hp.imp fun id size hi => ?_
    obtain ⟨hf, entries, hat, hd⟩ := hi
    exact ⟨entries, hf.trans hat, hd⟩

end Paged

-- Whatever a document went through, its pages are where they belong, the finished file has just
-- these pages, and only merging puts pages in front of others.
theorem pages_built (h : Built d sizes) :
    d.pageTexts.length = d.pageCount ∧ d.pageIds.Nodup ∧
    List.Forall₂ (HasDictionary d.store) d.pageIds (sizes.take d.currentIndex) ∧
    (∃ ids, d.Files sizes ids) ∧ ∀ e, d.Edit e → d.Preserves e := by
  have hp := h.paged
  refine ⟨length_pageTexts, hp.nodup, hp.hasDictionary ?_, ⟨_, hp.files h.boxes_eq⟩, fun e he => ?_⟩
  · rw [List.map_take, ← h.boxes_eq, boxes, leaves, List.map_append,
      List.take_left' (by rw [List.length_map, length_finishedLeaves])]
  · obtain ⟨_, he⟩ := hp.extends_edit he
    exact he.preserves hp

-- A finished page with a figure on it, and a text on an open page behind it.
def poster (layout : Options Float32) : Document Float32 :=
  let (id, d) := (empty layout).addFigure (Stream.make [] (.bytes []))
  (d.appendFigurePage id ⟨1, 0, 0, 1, 0, 0⟩).writeStyled .heading "Room (3)"

def sampleLayout : Options Float32 :=
  .ofDate ⟨2023, 11, 30, by decide⟩

theorem built_poster :
    Built (poster sampleLayout) [sampleLayout.page, sampleLayout.page] := by
  let d := ((empty sampleLayout).addFigure (Stream.make [] (.bytes []))).2
  let e := d.appendFigurePage ⟨5, 0⟩ ⟨1, 0, 0, 1, 0, 0⟩
  have hd : Built d [] := by
    have hn : d.pageCount - (empty sampleLayout).pageCount = 0 := by decide +kernel
    have h := (Built.empty sampleLayout).edit (.addFigure (Stream.make [] (.bytes [])))
    rwa [hn] at h
  have he : Built e [sampleLayout.page] := by
    have hn : e.pageCount - d.pageCount = 1 := by decide +kernel
    have h := hd.edit (.figurePage ⟨5, 0⟩ ⟨1, 0, 0, 1, 0, 0⟩)
    rwa [hn] at h
  have hn : (e.writeStyled .heading "Room (3)").pageCount - e.pageCount = 1 := by decide +kernel
  have h := he.edit (.text (.styled .heading "Room (3)"))
  rw [hn] at h
  exact h

theorem pages_built_posters : ∃ d : Document Float32, ∃ sizes,
    d = ((poster sampleLayout).merge (poster sampleLayout) 1).2 ∧
    sizes = List.replicate 4 sampleLayout.page ∧ Built d sizes ∧
    d.pageTexts.length = d.pageCount ∧ d.pageIds.Nodup ∧
    List.Forall₂ (HasDictionary d.store) d.pageIds (sizes.take d.currentIndex) ∧
    (∃ ids, d.Files sizes ids) ∧ ∀ e, d.Edit e → d.Preserves e := by
  have hi : min 1 (poster sampleLayout).pageCount = 1 := by decide +kernel
  have h := Built.merge 1 built_poster built_poster
  rw [hi] at h
  exact ⟨_, _, rfl, rfl, h, pages_built h⟩

/-! ### The pages of two documents -/

-- What the pages of a document have names for, with all that it leads to.
def Uses (d : Document α) (id : ObjectId) : Prop :=
  ∃ l ∈ d.leaves, ∃ category name resource, l.resource? category name = some resource ∧
    d.closePage.store.Reaches resource id

-- The pages of one document are now among those of another one, at a position and under new
-- numbers.
structure Merges (d other e : Document α) (i : Nat) (f : ObjectId → ObjectId) : Prop where
  closed    : e.current = none
  texts     : e.pageTexts = spliced i d.pageTexts other.pageTexts
  leaves    : e.leaves = spliced i d.leaves (other.leaves.map (Leaf.renumber f))
  contents  : e.pageIds.map e.store.pageContent = e.leaves.map fun l => marksBytes l.marks
  parents   : ∀ id ∈ e.pageIds, ∃ size, HasDictionary e.store id size
  -- own pages and all that they have names for stay where they were
  own       : d.pageIds <+: d.closePage.pageIds
  pageIds   : e.pageIds = spliced i d.closePage.pageIds (other.closePage.pageIds.map f)
  kept      : d.closePage.store.Keeps e.store
  resolved  : ∀ l ∈ d.leaves, ∀ category name id o, l.resource? category name = some id →
                d.closePage.store.get? id = some o → e.store.get? id = some o
  -- all that the other pages have names for is copied, each object under a number of its own
  names     : ∀ l ∈ other.leaves, ∀ category name,
                (l.renumber f).resource? category name = (l.resource? category name).map f
  copied    : ∀ id, other.Uses id → f id ∉ d.closePage.store.ids ∧
                ∃ o, (sourceObject other.closePage.store id).Copied f o ∧ e.store.get? (f id) =
                  some (if id ∈ other.closePage.pageIds then o.adopted else o)
  injective : ∀ a b, other.Uses a → other.Uses b → f a = f b → a = b

-- A page leads to all that it has names for.
theorem Paged.exists_reaches (h : d.Paged) (hu : d.Uses id) :
    ∃ page ∈ d.closePage.pageIds, d.closePage.store.Reaches page id := by
  obtain ⟨l, hl, category, name, resource, hr, hid⟩ := hu
  rw [← h.leaves_closePage, leaves_of_none current_closePage] at hl
  obtain ⟨page, hpage, rfl⟩ := List.mem_map.1 hl
  obtain ⟨p, hp, hc⟩ := h.closePage.pages page hpage
  rw [hp.leaf_eq] at hr
  refine ⟨page, hpage, .head ?_ hid⟩
  rw [sourceObject_of_at? hp.page (by simp)]
  simpa [Indirect.references, Object.references] using PageRecord.mem_entryReferences hc.named hr

theorem Paged.merges (h : d.Paged) (ho : other.Paged) (hl : d.Legible) (hl' : other.Legible)
    (i : Nat) : Merges d other (d.merge other i).2 (min i d.pageCount)
      (d.closePage.copier other.closePage).numbering.apply := by
  have he := h.merge ho i
  have hleaves := h.leaves_merge ho i
  have hc : (d.merge other i).2.current = none := current_merge i
  have hclosed : (d.merge other i).2.Legible := by simp [Legible, hc]
  have hkeeps : d.closePage.store.Keeps (d.merge other i).2.store := by
    rw [merge_eq]
    exact (grows_merged h.closePage.tidy).keeps
  have hids {id : ObjectId} (hu : other.Uses id) :
      id ∈ (d.closePage.copier other.closePage).numbering.ids :=
    mem_copier_iff.2 (ho.exists_reaches hu)
  constructor
  case closed => exact hc
  case texts =>
    rw [he.pageTexts_eq hclosed, h.pageTexts_eq hl, ho.pageTexts_eq hl', hleaves, map_spliced,
      List.map_map]
    rfl
  case leaves => exact hleaves
  case contents =>
    rw [leaves_of_none hc, finishedLeaves, List.map_map]
    exact List.map_congr_left fun id hid => (he.pages id hid).pageContent_eq
  case parents =>
    intro id hid
    obtain ⟨p, hp, -⟩ := he.pages id hid
    exact ⟨p.size, p.entries, hp.page, hp.type, hp.parent, hp.box⟩
  case own => exact h.extends_closePage.pageIds
  case pageIds =>
    rw [merge_eq]
    rfl
  case kept => exact hkeeps
  case resolved => exact fun _ _ _ _ _ _ _ ho => hkeeps.get? ho
  case names => exact fun l hl => (ho.named hl).resource?_renumber _
  case copied =>
    intro id hu
    constructor
    · intro hm
      have := h.closePage.tidy _ hm
      have := lt_number_copier (hids hu)
      omega
    · rw [merge_eq]
      exact get?_merged h.closePage.tidy (hids hu)
  case injective =>
    exact fun a b ha hb => (faithful_copier h.closePage.tidy).apply_injective (hids ha) (hids hb)

-- What is written behind finished pages goes to new pages.
theorem Paged.leaves_writing (h : d.Paged) (hc : d.current = none) (hw : d.Writing e written) :
    ∃ new, new ≠ [] ∧ e.leaves = d.leaves ++ new ∧ new.flatMap Leaf.lines = written := by
  have he := h.extends_writing hw
  obtain ⟨new, hn⟩ := (he.finishedLeaves h).trans finishedLeaves_prefix
  rw [← leaves_of_none hc] at hn
  have hl := he.lines
  rw [lines, lines, ← hn, List.flatMap_append, List.append_cancel_left_eq] at hl
  refine ⟨new, ?_, hn.symm, hl⟩
  rintro rfl
  exact hw.ne_nil hl.symm

-- Merging puts the pages of one document between those of another one and changes neither, and
-- text goes behind all of them.
theorem pages_merge (h : Built d sizes) (ho : Built other sizes') (hl : d.Legible)
    (hl' : other.Legible) (i : Nat) :
    (d.merge other i).1 = other.pageCount ∧
    (∃ f, Merges d other (d.merge other i).2 (min i d.pageCount) f) ∧
    ∀ e written, (d.merge other i).2.Writing e written →
      ∃ new, new ≠ [] ∧ e.leaves = (d.merge other i).2.leaves ++ new ∧
        new.flatMap Leaf.lines = written := by
  refine ⟨by rw [merge_eq], ⟨_, h.paged.merges ho.paged hl hl' i⟩, fun e written hw => ?_⟩
  exact (h.paged.merge ho.paged i).leaves_writing (current_merge i) hw

-- An open page of another size with nothing on it.
def blankLetter : Document Float32 :=
  (empty (sampleLayout.withPageSize .letter)).startNewPage

theorem built_blankLetter : Built blankLetter [blankLetter.layout.page] := by
  let layout := sampleLayout.withPageSize .letter
  have hn : (empty layout).startNewPage.pageCount - (empty layout).pageCount = 1 := by
    decide +kernel
  have h := (Built.empty layout).edit .newPage
  rw [hn] at h
  exact h

theorem pages_merge_letter :
    Built blankLetter [blankLetter.layout.page] ∧
    Built (poster sampleLayout) [sampleLayout.page, sampleLayout.page] ∧
    blankLetter.Legible ∧ (poster sampleLayout).Legible ∧
    (blankLetter.merge (poster sampleLayout) 0).1 = (poster sampleLayout).pageCount ∧
    (∃ f, Merges blankLetter (poster sampleLayout)
      (blankLetter.merge (poster sampleLayout) 0).2 (min 0 blankLetter.pageCount) f) ∧
    ∀ e written, (blankLetter.merge (poster sampleLayout) 0).2.Writing e written →
      ∃ new, new ≠ [] ∧
        e.leaves = (blankLetter.merge (poster sampleLayout) 0).2.leaves ++ new ∧
        new.flatMap Leaf.lines = written := by
  have hl : blankLetter.Legible := by decide +kernel
  have hl' : (poster sampleLayout).Legible := by decide +kernel
  exact ⟨built_blankLetter, built_poster, hl, hl',
    pages_merge built_blankLetter built_poster hl hl' 0⟩

end Document
end AccessReport
