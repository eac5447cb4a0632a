import AccessReport.Proofs.Building
import AccessReport.Proofs.Inheritance

namespace AccessReport

open Coordinate Pdf

variable {α : Type} [Coordinate α]

namespace Document

variable {d e : Document α} {source s s' : Store α} {page id : ObjectId} {size : Dimensions α}
  {f : ObjectId → ObjectId}

/-! ### Forms and their resources -/

-- The resources that a page has, or the nearest node above it that has any.
def HasResources (source : Store α) (page : ObjectId) (r : Object α) : Prop :=
  source.Nearest Store.chainLimit "Resources" Store.ancestorLimit page r

-- What the way up from a page ends with.
def resourcesOf (source : Store α) (page : ObjectId) : Option (Object α) :=
  source.inherited? "Resources" Store.ancestorLimit page

omit [Coordinate α] in
theorem resourcesOf_eq_some_iff {r : Object α} :
    resourcesOf source page = some r ↔ HasResources source page r :=
  Store.inherited?_eq_some_iff _

omit [Coordinate α] in
theorem resourcesOf_eq_none_iff :
    resourcesOf source page = none ↔ ∀ r, ¬ HasResources source page r := by
  simp only [Option.eq_none_iff_forall_ne_some, ne_eq, resourcesOf_eq_some_iff]

-- What is asked of a copier for the resources of some pages.
def resourceCalls (source : Store α) (pages : List ObjectId) : List (Copier.Call α) :=
  pages.filterMap fun page => (resourcesOf source page).map fun r => .object (.object r)

variable {c : Copier α}

theorem copyForms_cons (pages : List ObjectId) :
    copyForms source c (page :: pages) =
      ((copyForm source c page).1 :: (copyForms source (copyForm source c page).2 pages).1,
        (copyForms source (copyForm source c page).2 pages).2) :=
  rfl

theorem copyForms_snd (pages : List ObjectId) :
    (copyForms source c pages).2 = (c.calls source (resourceCalls source pages)).2 := by
  induction pages generalizing c with
  | nil => rfl
  | cons page pages ih =>
    rw [copyForms_cons, ih]
    cases hr : resourcesOf source page with
    | none =>
      have hc : resourceCalls source (page :: pages) = resourceCalls source pages := by
        simp [resourceCalls, hr]
      rw [copyForm_of_none hr, hc]
    | some r =>
      have hc : resourceCalls source (page :: pages) =
          .object (.object r) :: resourceCalls source pages := by
        simp [resourceCalls, hr]
      rw [copyForm_of_some hr, hc]
      rfl

theorem numbering_prefix_copyForm : c.numbering <+: (copyForm source c page).2.numbering := by
  cases hr : resourcesOf source page with
  | none => simp [copyForm_of_none hr]
  | some r =>
    rw [copyForm_of_some hr]
    exact Copier.numbering_prefix_copyAll _

theorem numbering_prefix_copyForms (pages : List ObjectId) :
    c.numbering <+: (copyForms source c pages).2.numbering := by
  induction pages generalizing c with
  | nil => exact List.prefix_rfl
  | cons page pages ih => exact numbering_prefix_copyForm.trans ih

-- A form with its resources as they are once more is copied behind it.
theorem copyForm_fst {c' : Copier α}
    (h : (copyForm source c page).2.numbering <+: c'.numbering) :
    (copyForm source c page).1 = form source page (boxOf source page)
      ((resourcesOf source page).map (Object.renumber c'.numbering.apply)) := by
  cases hr : resourcesOf source page with
  | none => rw [copyForm_of_none hr, Option.map_none]
  | some r =>
    rw [copyForm_of_some hr] at h ⊢
    obtain ⟨n, hn⟩ := h
    have hr : r.renumber (c.copyAll source r.references).numbering.apply =
        r.renumber c'.numbering.apply := by
      refine Object.renumber_congr r fun k hk => ?_
      rw [← hn, Numbering.apply_append (Copier.subset_ids_copyAll _ hk)]
    rw [Option.map_some, hr]

theorem copyForms_fst (pages : List ObjectId) :
    (copyForms source c pages).1 = pages.map fun page => form source page (boxOf source page)
      ((resourcesOf source page).map
        (Object.renumber (copyForms source c pages).2.numbering.apply)) := by
  induction pages generalizing c with
  | nil => rfl
  | cons page pages ih =>
    rw [copyForms_cons, ih, List.map_cons, copyForm_fst (numbering_prefix_copyForms pages)]

-- The form of a page: its content in its box, which is moved to the origin, with its resources
-- under new numbers.
structure IsForm (source : Store α) (f : ObjectId → ObjectId) (page : ObjectId) (box : PageBox α)
    (s : Stream α) : Prop where
  type      : s.entries.get? "Type" = some (.named "XObject")
  subtype   : s.entries.get? "Subtype" = some (.named "Form")
  content   : s.body = .bytes (source.pageContent page)
  bounds    : s.entries.get? "BBox" = some (.array (box.corners.map .real))
  matrix    : s.entries.get? "Matrix" = some (.array [.integer 1, .integer 0, .integer 0,
                .integer 1, .real (-box.x₀), .real (-box.y₀)])
  plain     : (∀ r, ¬ HasResources source page r) → s.entries.get? "Resources" = none
  resources : ∀ r, HasResources source page r →
                ∃ r', s.entries.get? "Resources" = some r' ∧ r.Copied f r'

theorem isForm_form (source : Store α) (f : ObjectId → ObjectId) (page : ObjectId)
    (box : PageBox α) :
    IsForm source f page box
      (form source page box ((resourcesOf source page).map (Object.renumber f))) := by
  cases hr : resourcesOf source page with
  | none =>
    exact ⟨rfl, rfl, rfl, rfl, rfl, fun _ => rfl,
      fun r h => absurd h (resourcesOf_eq_none_iff.1 hr r)⟩
  | some r =>
    refine ⟨rfl, rfl, rfl, rfl, rfl,
      fun h => absurd (resourcesOf_eq_some_iff.1 hr) (h r), fun r' h => ⟨_, rfl, ?_⟩⟩
    cases hr.symm.trans (resourcesOf_eq_some_iff.2 h)
    exact r.copied_renumber f

-- Resources that are referred to are referred to in the copy.
theorem IsForm.get?_of_reference {box : PageBox α} {figure : Stream α}
    (h : IsForm source f page box figure) (hr : HasResources source page (.reference id)) :
    figure.entries.get? "Resources" = some (.reference (f id)) := by
  obtain ⟨r, hg, hc⟩ := h.resources _ hr
  cases hc with
  | atom ha => cases ha
  | reference => exact hg

-- Which objects are copied with the resources of the pages of a file.
def Takes (source : Store α) (id : ObjectId) : Prop :=
  ∃ page ∈ source.pages, ∃ r, HasResources source page r ∧
    ∃ a ∈ r.references, source.Reaches a id

-- The objects that resources lead to lie in a document, each as one copy that was not there before.
structure Carries (source s s' : Store α) (f : ObjectId → ObjectId) : Prop where
  kept      : s.Keeps s'
  fresh     : ∀ id, Takes source id → f id ∉ s.ids
  copied    : ∀ id, Takes source id →
                ∃ o, s'.get? (f id) = some o ∧ (sourceObject source id).Copied f o
  injective : ∀ a b, Takes source a → Takes source b → f a = f b → a = b

theorem carries_copyForms (h : s.Tidy) :
    Carries source s (copyForms source ⟨[], s⟩ source.pages).2.target
      (copyForms source ⟨[], s⟩ source.pages).2.numbering.apply := by
  rw [copyForms_snd]
  let calls := resourceCalls source source.pages
  have hf : Copier.Faithful source (Copier.after source s calls) := Copier.faithful_after h calls
  have hids {id : ObjectId} (ht : Takes source id) :
      id ∈ (Copier.after source s calls).numbering.ids := by
    obtain ⟨page, hp, r, hr, a, ha, hid⟩ := ht
    refine (Copier.mem_ids_after_iff h).2 ⟨.object (.object r), ?_, a, ha, hid⟩
    exact List.mem_filterMap.2 ⟨page, hp, by rw [resourcesOf_eq_some_iff.2 hr]; rfl⟩
  constructor
  case kept => exact (Copier.grows_after h calls).keeps
  case fresh =>
    intro id ht hm
    have hlt := (Copier.maxId_lt_after calls).2 _ (Numbering.apply_mem (hids ht))
    exact absurd (h _ hm) (Nat.not_le_of_lt hlt)
  case copied =>
    exact fun id ht => ⟨_, hf.get?_apply (hids ht), (sourceObject source id).copied_renumber _⟩
  case injective => exact fun a b ha hb => hf.apply_injective (hids ha) (hids hb)

theorem Carries.keeps {t : Store α} (h : Carries source s s' f) (hk : s'.Keeps t) :
    Carries source s t f where
  kept      := h.kept.trans hk
  fresh     := h.fresh
  copied    := fun id ht => (h.copied id ht).imp fun _ ho => ⟨hk.get? ho.1, ho.2⟩
  injective := h.injective

/-! ### Pages with one figure -/

-- A page of a size with nothing on it but one object, which is its only figure.
structure ShowsOnly (s : Store α) (size : Dimensions α) (figure : Stream α) (matrix : Matrix α)
    (l : Leaf α) : Prop where
  box   : l.box = some (mediaBox size)
  drawn : ∃ name id, l.marks = [.figure name matrix] ∧ s.at? id = some (.stream figure) ∧
            ∀ key, l.resource? (Bytes.ofText "XObject") key =
              if key = Bytes.ofText name then some id else none

variable {figure : Stream α} {matrix : Matrix α} {l : Leaf α}

omit [Coordinate α] in
theorem ShowsOnly.keeps (h : ShowsOnly s size figure matrix l) (hk : s.Keeps s') :
    ShowsOnly s' size figure matrix l where
  box   := h.box
  drawn := by
    obtain ⟨name, id, hm, hs, hr⟩ := h.drawn
    exact ⟨name, id, hm, hk _ _ hs, hr⟩

omit [Coordinate α] in
theorem ShowsOnly.lines_eq (h : ShowsOnly s size figure matrix l) : l.lines = [] := by
  obtain ⟨name, id, hm, -, -⟩ := h.drawn
  rw [Leaf.lines, hm]
  rfl

-- A page that is appended for one object.
def figurePage (layout : Options α) (n : Nat) (id : ObjectId) (matrix : Matrix α) : OpenPage α :=
  (OpenPage.blank layout).draw (figureName n) id matrix layout.top

theorem showsOnly_figurePage {layout : Options α} {n : Nat} (h : s.at? id = some (.stream figure)) :
    ShowsOnly s size figure matrix ((figurePage layout n id matrix).leaf size) where
  box   := rfl
  drawn := by
    refine ⟨figureName n, id, rfl, h, fun key => ?_⟩
    rw [resource?_leaf, if_pos rfl]
    simp only [figurePage, OpenPage.draw, OpenPage.blank, Dictionary.set, Dictionary.find?_put,
      Dictionary.find?_nil]
    split <;> rfl

theorem Paged.leaves_appendFigurePage (h : d.Paged) (id : ObjectId) (matrix : Matrix α) :
    (d.appendFigurePage id matrix).leaves = d.leaves ++
      [(figurePage d.layout (d.closePage.figureCount + 1) id matrix).leaf d.layout.page] := by
  have hb : (OpenPage.blank d.closePage.layout).figures.find? parentKey = none := rfl
  have ho : (d.openFigurePage id matrix).Paged := h.closePage.turn (find?_figures_draw hb ..)
  rw [appendFigurePage_eq, ho.leaves_closePage, leaves_of_some rfl, ← h.leaves_closePage,
    leaves_of_none current_closePage, ← layout_closePage (d := d)]
  rfl

theorem Paged.leaves_appendFigure (h : d.Paged) (figure : Stream α) (matrix : Matrix α) :
    ∃ l, (d.appendFigure figure matrix).leaves = d.leaves ++ [l] ∧
      ShowsOnly (d.appendFigure figure matrix).store d.layout.page figure matrix l := by
  have ha := h.extends_addFigure figure
  have hp := ha.paged.extends_appendFigurePage (d.addFigure figure).1 matrix
  have hs : (d.addFigure figure).2.store.at? (d.addFigure figure).1 = some (.stream figure) :=
    Store.at?_add ..
  have hl := ha.paged.leaves_appendFigurePage (d.addFigure figure).1 matrix
  have hg : (d.addFigure figure).2.leaves = d.leaves := h.leaves_grow ha.store.keeps
  rw [hg] at hl
  exact ⟨_, hl, showsOnly_figurePage (hp.store.keeps _ _ hs)⟩

-- One page for each object, in their order, behind all that is there.
theorem Paged.leaves_appendFigures (h : d.Paged) (size : Dimensions α)
    (forms : List (Stream α × PageBox α)) :
    ∃ new, (d.appendFigures size forms).leaves = d.leaves ++ new ∧
      List.Forall₂ (fun form l => ShowsOnly (d.appendFigures size forms).store d.layout.page form.1
        (Placement.fitCentered form.2.dimensions size) l) forms new := by
  induction forms generalizing d with
  | nil => exact ⟨[], (List.append_nil _).symm, .nil⟩
  | cons form forms ih =>
    let matrix : Matrix α := Placement.fitCentered form.2.dimensions size
    have ha := h.extends_addFigure form.1
    have he : d.Extends (d.appendFigure form.1 matrix) _ :=
      ha.trans <| ha.paged.extends_appendFigurePage (d.addFigure form.1).1 matrix
    have hr := he.paged.extends_appendFigures size forms
    obtain ⟨l, hl, hs⟩ := h.leaves_appendFigure form.1 matrix
    obtain ⟨new, hn, hf⟩ := ih he.paged
    rw [he.layout] at hf
    refine ⟨l :: new, ?_, .cons (hs.keeps hr.store.keeps) hf⟩
    rw [hl, List.append_assoc] at hn
    exact hn

theorem current_appendFigures {forms : List (Stream α × PageBox α)} (h : forms ≠ []) :
    (d.appendFigures size forms).current = none := by
  induction forms generalizing d with
  | nil => exact absurd rfl h
  | cons form forms ih =>
    cases forms with
    | nil => exact current_closePage (d := Document.openFigurePage ..)
    | cons _ _ => exact ih (List.cons_ne_nil _ _)

/-! ### The pages of another file -/

-- The box that a page has, or the nearest node above it that has one: four numbers that span a
-- rectangle.
def HasBox (source : Store α) (page : ObjectId) (box : PageBox α) : Prop :=
  ∃ p q, source.StatesCorners Store.chainLimit page p q ∧ box = .ofCorners p.x p.y q.x q.y ∧
    box.dimensions.isValid

theorem ofPage?_eq_some_iff {box : PageBox α} :
    PageBox.ofPage? source page = some box ↔ HasBox source page box := by
  simp only [HasBox, Store.statesCorners_iff]
  constructor
  case mp =>
    intro h
    obtain ⟨value, hv, h⟩ := Option.bind_eq_some_iff.1 h
    obtain ⟨items, hi, h⟩ := Option.bind_eq_some_iff.1 h
    obtain ⟨o, ho, hi⟩ := Option.bind_eq_some_iff.1 hi
    have hr : source.resolve value = .object (.array items) := by
      cases hr : source.resolve value <;> simp_all [Indirect.object?]
      cases o <;> simp_all [Object.array?]
    split at h
    case h_1 x y x' y' hn =>
      dsimp only at h
      split at h
      case isTrue hvalid => exact ⟨⟨x, y⟩, ⟨x', y'⟩, ⟨value, items, hv, hr, hn⟩, by simp_all⟩
      case isFalse => cases h
    case h_2 => cases h
  case mpr =>
    rintro ⟨p, q, ⟨value, items, hv, hr, hn⟩, rfl, hvalid⟩
    simp [PageBox.ofPage?, hv, hr, hn, hvalid, Indirect.object?, Object.array?]

-- A page is shown with its box; one without counts as a letter page.
def ShownWith (source : Store α) (page : ObjectId) (box : PageBox α) : Prop :=
  HasBox source page box ∨ (∀ b, ¬ HasBox source page b) ∧ box = .ofDimensions .letter

theorem shownWith_boxOf (source : Store α) (page : ObjectId) :
    ShownWith source page (boxOf source page) := by
  unfold boxOf
  cases hb : PageBox.ofPage? source page with
  | none => exact .inr ⟨fun b h => by simp [ofPage?_eq_some_iff.2 h] at hb, rfl⟩
  | some box => exact .inl (ofPage?_eq_some_iff.1 hb)

-- A page without text on which a page of another file is shown and nothing else is.
def Reproduces (source s : Store α) (f : ObjectId → ObjectId) (own size : Dimensions α)
    (page : ObjectId) (l : Leaf α) : Prop :=
  l.lines = [] ∧ ∃ box figure, ShownWith source page box ∧ IsForm source f page box figure ∧
    ShowsOnly s own figure (Placement.fitCentered box.dimensions size) l

-- What a document gets from another file behind a line that announces its pages.
structure Embeds (line e : Document α) (source : Store α) (size : Dimensions α)
    (f : ObjectId → ObjectId) : Prop where
  -- the pages of the file in their order, each on a page of its own
  leaves  : ∃ new, e.leaves = line.leaves ++ new ∧
              List.Forall₂ (Reproduces source e.store f line.layout.page size) source.pages new
  front   : line.pageIds <+: e.pageIds
  carries : Carries source line.store e.store f
  -- resources that pages share are there once
  shared  : ∀ page ∈ source.pages, ∀ id, HasResources source page (.reference id) →
              ∃ o, e.store.get? (f id) = some o ∧ (sourceObject source id).Copied f o ∧
                ∀ box figure, IsForm source f page box figure →
                  figure.entries.get? "Resources" = some (.reference (f id))
  -- text goes behind the pages, and onto the open one when there are none
  closed  : source.pages ≠ [] → e.current = none ∧ ∀ e' written, e.Writing e' written →
              ∃ new, new ≠ [] ∧ e'.leaves = e.leaves ++ new ∧ new.flatMap Leaf.lines = written
  opened  : source.pages = [] → e = line ∧ line.current.isSome

omit [Coordinate α] in
theorem takes_of_reference (hp : page ∈ source.pages)
    (hr : HasResources source page (.reference id)) : Takes source id :=
  ⟨page, hp, _, hr, id, by simp [Object.references], .refl⟩

-- The pages of a file behind a line that is written already.
def appendPages (line : Document α) (source : Store α) (size : Dimensions α) : Document α :=
  let copies := copyForms source ⟨[], line.store⟩ source.pages
  { line with store := copies.2.target }.appendFigures size
    (copies.1.zip (source.pages.map (boxOf source)))

theorem embedPages_eq_appendPages (source : Store α) (size : Dimensions α) :
    (d.embedPages source size).2 =
      (d.writeLine (announcement source.pages.length)).appendPages source size :=
  embedPages_eq source size

section AppendPages

variable {line : Document α}

-- The forms that are appended, each beside its box.
theorem zip_copyForms :
    (copyForms source c source.pages).1.zip (source.pages.map (boxOf source)) =
      source.pages.map fun page =>
        (form source page (boxOf source page) ((resourcesOf source page).map
          (Object.renumber (copyForms source c source.pages).2.numbering.apply)),
          boxOf source page) := by
  rw [copyForms_fst, List.zip_map']

theorem Paged.extends_appendPages (h : line.Paged) (source : Store α) (size : Dimensions α) :
    line.Extends (line.appendPages source size) [] := by
  have hg := h.extends_grow (h.grows_copies source)
  exact hg.trans <| hg.paged.extends_appendFigures ..

theorem Paged.reproduces_appendPages (h : line.Paged) (source : Store α) (size : Dimensions α) :
    ∃ new, (line.appendPages source size).leaves = line.leaves ++ new ∧
      List.Forall₂ (Reproduces source (line.appendPages source size).store
        (copyForms source ⟨[], line.store⟩ source.pages).2.numbering.apply line.layout.page size)
        source.pages new := by
  have hs := h.grows_copies source
  obtain ⟨new, hn, hf⟩ := (h.grow hs).leaves_appendFigures size
    ((copyForms source ⟨[], line.store⟩ source.pages).1.zip (source.pages.map (boxOf source)))
  rw [h.leaves_grow hs.keeps] at hn
  refine ⟨new, hn, ?_⟩
  rw [zip_copyForms, List.forall₂_map_left_iff, ← zip_copyForms] at hf
  exact hf.imp fun page l hl =>
    ⟨hl.lines_eq, boxOf source page, _, shownWith_boxOf source page, isForm_form .., hl⟩

theorem Paged.carries_appendPages (h : line.Paged) (source : Store α) (size : Dimensions α) :
    Carries source line.store (line.appendPages source size).store
      (copyForms source ⟨[], line.store⟩ source.pages).2.numbering.apply := by
  have he := (h.grow (h.grows_copies source)).extends_appendFigures size
    ((copyForms source ⟨[], line.store⟩ source.pages).1.zip (source.pages.map (boxOf source)))
  exact (carries_copyForms h.tidy).keeps he.store.keeps

theorem current_appendPages (h : source.pages ≠ []) :
    (line.appendPages source size).current = none := by
  refine current_appendFigures ?_
  rwa [zip_copyForms, Ne, List.map_eq_nil_iff]

theorem appendPages_of_nil (h : source.pages = []) : line.appendPages source size = line := by
  simp [appendPages, h, copyForms, appendFigures]

theorem Paged.embeds_appendPages (h : line.Paged) (ho : line.Started) (source : Store α)
    (size : Dimensions α) : ∃ f, Embeds line (line.appendPages source size) source size f := by
  have he := h.extends_appendPages source size
  have hc := h.carries_appendPages source size
  refine ⟨_, h.reproduces_appendPages source size, he.pageIds, hc, ?shared, ?closed, ?opened⟩
  case shared =>
    intro page hp id hr
    obtain ⟨o, ho, hcopied⟩ := hc.copied id (takes_of_reference hp hr)
    exact ⟨o, ho, hcopied, fun box figure hf => hf.get?_of_reference hr⟩
  case closed =>
    intro hne
    have hcurrent : (line.appendPages source size).current = none := current_appendPages hne
    exact ⟨hcurrent, fun e' written hw => he.paged.leaves_writing hcurrent hw⟩
  case opened =>
    intro hnil
    obtain ⟨p, hp, -⟩ := ho
    exact ⟨appendPages_of_nil hnil, by rw [hp]; rfl⟩

end AppendPages

variable {sizes : List (Dimensions α)} {data : Bytes}

-- Each page of a file that can be read is shown on a page of its own, in order and behind one line
-- that announces them.
theorem embed_reproduces (h : Built d sizes) (hd : isPdf data) (hl : load data = .ok source)
    (size : Dimensions α) : ∃ e f, d.embed data size = .ok (source.pages.length, e) ∧
      Embeds (d.writeLine (announcement source.pages.length)) e source size f := by
  have hp : (d.writeLine (announcement source.pages.length)).Paged :=
    (h.paged.extends_writeStyled ..).paged
  obtain ⟨f, hf⟩ := hp.embeds_appendPages started_writeStyled source size
  refine ⟨_, f, ?_, hf⟩
  obtain ⟨v, hv⟩ : ∃ v, version data = .ok v := by
    unfold isPdf at hd
    cases hv : version data with
    | error failure => simp [hv, Except.isOk, Except.toBool] at hd
    | ok v => exact ⟨v, rfl⟩
  simp only [embed, hv, hl, bind, Except.bind, ← embedPages_eq_appendPages]
  rfl

-- Loading a file whose only section is a table.
theorem load_of_section {file : Bytes} {offset : Nat} {table : PlaceTable} {trailer : Dictionary α}
    (hf : (Bytes.find? (Bytes.ofText "%PDF-") file).getD file = file)
    (hh : hasHeader file = true) (ho : startOffset? file = some offset)
    (hs : sectionAt file offset = .ok (table, trailer))
    (hp : (trailer.get? "Prev").bind Object.integer? = none)
    (hl : ¬ largestNumber ≤ table.largest) :
    load file = .ok (harvest file table (trailer.erase "Prev")) := by
  simp [load, hf, hh, ho, hs, hp, hl, earlierSections, bind, Except.bind]

-- A file of two pages without a box or content, which inherit one dictionary of resources.
def twoPages : Bytes :=
  [ "%PDF-1.4\n",
    "1 0 obj\n", "<</Type/Catalog/Pages 2 0 R>>\n", "endobj\n",
    "2 0 obj\n", "<</Type/Pages/Kids[3 0 R 4 0 R]/", "Resources 5 0 R>>\n", "endobj\n",
    "3 0 obj\n", "<</Type/Page/Parent 2 0 R>>\n", "endobj\n",
    "4 0 obj\n", "<</Type/Page/Parent 2 0 R>>\n", "endobj\n",
    "5 0 obj\n", "<<>>\n", "endobj\n",
    "xref\n", "0 6\n", "0000000000 65535 f \n", "0000000009 00000 n \n",
    "0000000054 00000 n \n", "0000000119 00000 n \n", "0000000162 00000 n \n",
    "0000000205 00000 n \n",
    "trailer\n", "<</Size 6/Root 1 0 R>>\n",
    "startxref\n", "225\n", "%%EOF\n"].flatMap Bytes.ofText

def twoPagesTable : PlaceTable := [
  (5, .direct 205 0), (4, .direct 162 0), (3, .direct 119 0), (2, .direct 54 0), (1, .direct 9 0)]

def twoPagesTrailer : Dictionary Float32 :=
  match sectionAt twoPages 225 with
  | .ok (_, trailer) => trailer
  | .error _ => []

theorem sectionAt_twoPages : sectionAt twoPages 225 = .ok (twoPagesTable, twoPagesTrailer) := by
  have ht : (sectionAt twoPages 225 : Except Fault (PlaceTable × Dictionary Float32)).map (·.1) =
      .ok twoPagesTable := by
    decide +kernel
  unfold twoPagesTrailer
  cases hs : (sectionAt twoPages 225 : Except Fault (PlaceTable × Dictionary Float32)) with
  | error fault => simp [hs, Except.map] at ht
  | ok pair =>
    have ht : pair.1 = twoPagesTable := by simpa [hs, Except.map] using ht
    exact congrArg (fun table => Except.ok (table, pair.2)) ht

theorem load_twoPages : load twoPages =
    .ok (harvest twoPages twoPagesTable (twoPagesTrailer.erase "Prev")) := by
  have hfile : (Bytes.find? (Bytes.ofText "%PDF-") twoPages).getD twoPages = twoPages := by
    decide +kernel
  have hheader : hasHeader twoPages = true := by decide +kernel
  have hstart : startOffset? twoPages = some 225 := by decide +kernel
  have hprevious : (twoPagesTrailer.get? "Prev").bind Object.integer? = none := by decide +kernel
  have hlargest : ¬ largestNumber ≤ twoPagesTable.largest := by decide +kernel
  exact load_of_section hfile hheader hstart sectionAt_twoPages hprevious hlargest

theorem pages_twoPages : ∃ source : Store Float32, load twoPages = .ok source ∧
    source.pages = [⟨3, 0⟩, ⟨4, 0⟩] ∧
    ∀ page ∈ source.pages, HasResources source page (.reference ⟨5, 0⟩) := by
  -- Sorting does not evaluate, so that the places are put in their order first.
  have hs : twoPagesTable.sorted = twoPagesTable.reverse := by
    simp [twoPagesTable, PlaceTable.sorted, List.mergeSort]
  refine ⟨_, load_twoPages, ?_⟩
  simp only [← resourcesOf_eq_some_iff, ← Store.bind_reference?_eq_some_iff]
  rw [harvest, hs]
  constructor <;> decide +kernel

theorem embed_reproduces_twoPages : ∃ source : Store Float32,
    Built (poster sampleLayout) [sampleLayout.page, sampleLayout.page] ∧ isPdf twoPages ∧
    load twoPages = .ok source ∧ source.pages.length = 2 ∧ ∃ e f,
      (poster sampleLayout).embed twoPages sampleLayout.page = .ok (source.pages.length, e) ∧
      Embeds ((poster sampleLayout).writeLine (announcement source.pages.length)) e source
        sampleLayout.page f := by
  obtain ⟨source, hl, hp, -⟩ := pages_twoPages
  have hd : isPdf twoPages := by decide +kernel
  exact ⟨source, built_poster, hd, hl, by rw [hp]; rfl,
    embed_reproduces built_poster hd hl sampleLayout.page⟩

end Document
end AccessReport
