import AccessReport.Proofs.Steps

namespace AccessReport

open Coordinate Pdf

variable {α : Type}

namespace Pdf

-- The names of the objects that operations draw, in their order.
def drawnNames (os : List (Operation α)) : List Bytes :=
  os.filterMap fun o =>
    if o.operator = Bytes.ofText "Do" then o.operands.head?.bind Object.name? else none

theorem drawnNames_text (font : String) (size x y : α) (codes : Bytes) :
    drawnNames (Mark.text font size x y codes).operations = [] := by
  have hb : Bytes.ofText "BT" ≠ Bytes.ofText "Do" := by decide
  have hf : Bytes.ofText "Tf" ≠ Bytes.ofText "Do" := by decide
  have hd : Bytes.ofText "Td" ≠ Bytes.ofText "Do" := by decide
  have hj : Bytes.ofText "Tj" ≠ Bytes.ofText "Do" := by decide
  have he : Bytes.ofText "ET" ≠ Bytes.ofText "Do" := by decide
  simp [drawnNames, Mark.operations, Operation.of, hb, hf, hd, hj, he]

theorem drawnNames_figure (name : String) (matrix : Matrix α) :
    drawnNames (Mark.figure name matrix).operations = [Bytes.ofText name] := by
  have hq : Bytes.ofText "q" ≠ Bytes.ofText "Do" := by decide
  have hc : Bytes.ofText "cm" ≠ Bytes.ofText "Do" := by decide
  have hr : Bytes.ofText "Q" ≠ Bytes.ofText "Do" := by decide
  simp [drawnNames, Mark.operations, Operation.of, hq, hc, hr, Object.named, Object.name?]

end Pdf

namespace Leaf

variable {l l' : Leaf α} {name : Bytes}

-- The category of the names for what is drawn.
def figures : Bytes :=
  Bytes.ofText "XObject"

def category? (l : Leaf α) (category : Bytes) : Option (Object α) :=
  (l.resources.bind Object.dictionary?).bind (Dictionary.find? · category)

-- The names of what is drawn on the page.
def drawn (l : Leaf α) : List Bytes :=
  drawnNames (l.marks.flatMap Mark.operations)

theorem drawn_append {new : List (Mark α)} (h : l'.marks = l.marks ++ new) :
    l'.drawn = l.drawn ++ drawnNames (new.flatMap Mark.operations) := by
  simp [drawn, drawnNames, h]

theorem mem_drawn_iff : name ∈ l.drawn ↔
    ∃ text matrix, .figure text matrix ∈ l.marks ∧ name = Bytes.ofText text := by
  have hd : l.drawn = l.marks.flatMap fun m => drawnNames m.operations := List.filterMap_flatMap
  rw [hd, List.mem_flatMap]
  constructor
  case mp =>
    rintro ⟨m, hm, hn⟩
    cases m with
    | text => simp [drawnNames_text] at hn
    | figure text matrix =>
      rw [drawnNames_figure, List.mem_singleton] at hn
      exact ⟨text, matrix, hm, hn⟩
  case mpr =>
    rintro ⟨text, matrix, hm, rfl⟩
    exact ⟨_, hm, by simp [drawnNames_figure]⟩

theorem category?_renumber {f : ObjectId → ObjectId} {category : Bytes}
    (h : l.category? category = none) : (l.renumber f).category? category = none := by
  unfold category? renumber at *
  rcases hr : l.resources with _ | o
  · rfl
  simp only [hr, Option.bind_some, Option.map_some, Object.dictionary?_renumber] at h ⊢
  rcases hd : o.dictionary? with _ | entries
  · rfl
  simp only [hd, Option.bind_some, Option.map_some, Object.find?_renumberEntries] at h ⊢
  simp [h]

end Leaf

namespace Document

variable [Coordinate α]

theorem category?_leaf (p : OpenPage α) (size : Dimensions α) :
    (p.leaf size).category? Leaf.figures =
      if p.figures.isEmpty then none else some (.dictionary p.figures) := by
  have hne : Bytes.ofText "Font" ≠ Bytes.ofText "XObject" := by decide
  have hr : resources p.figures = .dictionary (Dictionary.ofList (("Font", .dictionary fonts) ::
      (if p.figures.isEmpty then [] else [("XObject", .dictionary p.figures)]))) := rfl
  simp only [Leaf.category?, OpenPage.leaf, hr, Option.bind_some, Object.dictionary?, Leaf.figures]
  cases p.figures with
  | nil =>
    simp only [List.isEmpty_nil, if_true, Dictionary.ofList, List.foldl_cons, List.foldl_nil,
      Dictionary.set, Dictionary.find?_put, Dictionary.find?_nil]
    simp [hne.symm]
  | cons e figures =>
    simp [Dictionary.ofList, Dictionary.set, Dictionary.find?_put]

theorem resource?_figures (p : OpenPage α) (size : Dimensions α) (name : Bytes) :
    (p.leaf size).resource? Leaf.figures name = (p.figures.find? name).bind Object.reference? := by
  rw [resource?_leaf]
  exact if_pos rfl

-- A new name leaves those on the page alone.
theorem resource?_draw {p : OpenPage α} {size : Dimensions α} {n : Nat} {id : ObjectId}
    {matrix : Matrix α} {cursor : α} {name : Bytes} (h : Named n p.marks)
    (hn : name ∈ (p.leaf size).drawn) :
    ((p.draw (figureName (n + 1)) id matrix cursor).leaf size).resource? Leaf.figures name =
      (p.leaf size).resource? Leaf.figures name := by
  obtain ⟨text, m, hm, rfl⟩ := Leaf.mem_drawn_iff.1 hn
  rw [resource?_figures, resource?_figures]
  exact congrArg (Option.bind · _) (h.get?_set hm _)

theorem drawn_draw {p : OpenPage α} {size : Dimensions α} {name : String} {id : ObjectId}
    {matrix : Matrix α} {cursor : α} :
    ((p.draw name id matrix cursor).leaf size).drawn =
      (p.leaf size).drawn ++ [Bytes.ofText name] := by
  rw [Leaf.drawn_append (l := p.leaf size) rfl]
  simp [drawnNames_figure]

theorem drawn_put {p : OpenPage α} {size : Dimensions α} {marks : List (Mark α)} {cursor : α}
    (h : Plain marks) :
    ({ p with marks := p.marks ++ marks, cursor := cursor }.leaf size).drawn =
      (p.leaf size).drawn := by
  have hn : drawnNames (marks.flatMap Mark.operations) = [] := by
    refine List.eq_nil_iff_forall_not_mem.2 fun name hn => ?_
    obtain ⟨text, matrix, hf, -⟩ := (Leaf.mem_drawn_iff (l := ⟨none, marks, none⟩)).1 hn
    exact h text matrix hf
  have hd : ({ p with marks := p.marks ++ marks, cursor := cursor }.leaf size).drawn =
      (p.leaf size).drawn ++ drawnNames (marks.flatMap Mark.operations) := Leaf.drawn_append rfl
  rw [hd, hn, List.append_nil]

-- An object that was added to a document so that it can be drawn.
structure Figure (α : Type) where
  id     : ObjectId
  stream : Stream α

-- What becomes of it in a copy of its document.
def Figure.copy (f : ObjectId → ObjectId) (x : Figure α) : Figure α where
  id     := f x.id
  stream := Stream.make (Object.renumberEntries f x.stream.entries) x.stream.body
    x.stream.compressible

-- Each name that is drawn on a page stands for what was handed over to be drawn; a page on which
-- nothing is drawn has no names of this kind.
structure Binds (s : Store α) (l : Leaf α) (figures : List (Figure α)) : Prop where
  bound : List.Forall₂ (fun name (x : Figure α) => l.resource? Leaf.figures name = some x.id ∧
            s.at? x.id = some (.stream x.stream)) l.drawn figures
  plain : l.drawn = [] → l.category? Leaf.figures = none

variable {d e other : Document α} {s s' : Store α} {l : Leaf α} {figures : List (Figure α)}
  {x : Figure α} {p : OpenPage α} {size : Dimensions α} {n : Nat} {ids : List ObjectId}

namespace Binds

omit [Coordinate α] in
theorem keeps (h : Binds s l figures) (hk : s.Keeps s') : Binds s' l figures where
  bound := h.bound.imp fun _ _ hx => ⟨hx.1, hk _ _ hx.2⟩
  plain := h.plain

theorem blank (layout : Options α) : Binds s ((OpenPage.blank layout).leaf size) [] where
  bound := .nil
  plain := fun _ => category?_leaf ..

theorem put {marks : List (Mark α)} {cursor : α} (h : Binds s (p.leaf size) figures)
    (hm : Plain marks) :
    Binds s ({ p with marks := p.marks ++ marks, cursor := cursor }.leaf size) figures where
  bound := by
    rw [drawn_put hm]
    exact h.bound
  plain := by
    rw [drawn_put hm]
    exact h.plain

theorem draw {matrix : Matrix α} {cursor : α} (h : Binds s (p.leaf size) figures)
    (hn : Named n p.marks) (hx : s.at? x.id = some (.stream x.stream)) :
    Binds s ((p.draw (figureName (n + 1)) x.id matrix cursor).leaf size) (figures ++ [x]) where
  bound := by
    rw [drawn_draw]
    refine List.rel_append ?_ (.cons ⟨?_, hx⟩ .nil)
    · have hb := (List.forall₂_and_left _ _).2 ⟨fun _ h => h, h.bound⟩
      exact hb.imp fun name y hy => ⟨(resource?_draw hn hy.1).trans hy.2.1, hy.2.2⟩
    · rw [resource?_figures]
      exact congrArg (Option.bind · _) (Dictionary.get?_set_self ..)
  plain := by simp [drawn_draw]

-- A page is copied with all that is drawn on it.
theorem renumber (h : Binds s l figures) (hl : l.Named) {f : ObjectId → ObjectId}
    (hs : ∀ name (x : Figure α), l.resource? Leaf.figures name = some x.id →
      s.at? x.id = some (.stream x.stream) →
      s'.at? (f x.id) = some (.stream (x.copy f).stream)) :
    Binds s' (l.renumber f) (figures.map (Figure.copy f)) where
  bound := by
    rw [List.forall₂_map_right_iff]
    refine h.bound.imp fun name x hx => ⟨?_, hs name x hx.1 hx.2⟩
    rw [hl.resource?_renumber, hx.1]
    rfl
  plain := fun hd => Leaf.category?_renumber (h.plain hd)

end Binds

/-! ### Merging -/

theorem Paged.keeps_merge (h : d.Paged) (other : Document α) (i : Nat) :
    d.store.Keeps (d.merge other i).2.store := by
  rw [merge_eq]
  exact (grows_closePage h.tidy).keeps.trans (grows_merged h.closePage.tidy).keeps

theorem Numbered.merge (h : d.Numbered) (ho : other.Paged) (i : Nat) :
    (d.merge other i).2.Numbered where
  toPaged := h.toPaged.merge ho i
  named   := by
    have hc : (d.merge other i).2.current = none := current_merge i
    simp [Named, page, hc, OpenPage.blank]

/-! ### Runs of operations -/

-- A document that came about by drawing only what was added to it before: what was added, and what
-- was drawn on each page, draw by draw.
inductive Drawn : Document α → List (Figure α) → List (List (Figure α)) → Prop
  | empty (layout : Options α) : Drawn (empty layout) [] []
  | text {d e : Document α} {given : List (Figure α)} {drawn : List (List (Figure α))}
      {written : List Bytes} : Drawn d given drawn → d.Writing e written →
      Drawn e given (drawn ++ List.replicate (e.pageCount - d.pageCount) [])
  | space {d : Document α} {given : List (Figure α)} {drawn : List (List (Figure α))} (lines : α) :
      Drawn d given drawn → Drawn (d.addSpace lines) given
        (drawn ++ List.replicate ((d.addSpace lines).pageCount - d.pageCount) [])
  | newPage {d : Document α} {given : List (Figure α)} {drawn : List (List (Figure α))} :
      Drawn d given drawn → Drawn d.startNewPage given
        (drawn ++ List.replicate (d.startNewPage.pageCount - d.pageCount) [])
  -- objects of another file are copied
  | copy {d : Document α} {given : List (Figure α)} {drawn : List (List (Figure α))} {s : Store α} :
      Drawn d given drawn → d.store.Grows s → Drawn { d with store := s } given drawn
  | addFigure {d : Document α} {given : List (Figure α)} {drawn : List (List (Figure α))}
      (figure : Stream α) : Drawn d given drawn →
      Drawn (d.addFigure figure).2 (given ++ [⟨(d.addFigure figure).1, figure⟩]) drawn
  -- on the open page
  | drawFigure {d : Document α} {given here : List (Figure α)} {front : List (List (Figure α))}
      {x : Figure α} (matrix : Matrix α) (bottom : α) : Drawn d given (front ++ [here]) →
      d.current.isSome → x ∈ given →
      Drawn (d.drawFigure x.id matrix bottom) given (front ++ [here ++ [x]])
  -- on a page that is opened for it
  | drawFirst {d : Document α} {given : List (Figure α)} {drawn : List (List (Figure α))}
      {x : Figure α} (matrix : Matrix α) (bottom : α) : Drawn d given drawn →
      d.current = none → x ∈ given →
      Drawn (d.drawFigure x.id matrix bottom) given (drawn ++ [[x]])
  | figurePage {d : Document α} {given : List (Figure α)} {drawn : List (List (Figure α))}
      {x : Figure α} (matrix : Matrix α) : Drawn d given drawn → x ∈ given →
      Drawn (d.appendFigurePage x.id matrix) given (drawn ++ [[x]])
  -- the pages of another document come with copies of what is drawn on them
  | merge {d other : Document α} {given given' : List (Figure α)}
      {drawn drawn' : List (List (Figure α))} (i : Nat) :
      Drawn d given drawn → Drawn other given' drawn' →
      Drawn (d.merge other i).2 given (spliced (min i d.pageCount) drawn (drawn'.map
        (List.map (Figure.copy (d.closePage.copier other.closePage).numbering.apply))))

-- What holds of a document at all times, and of what was drawn on its pages.
structure Accounts (d : Document α) (given : List (Figure α)) (drawn : List (List (Figure α))) :
    Prop extends Numbered d where
  given : ∀ x ∈ given, d.store.at? x.id = some (.stream x.stream)
  binds : List.Forall₂ (Binds d.store) d.leaves drawn

theorem forall₂_concat_left {β γ : Type} {R : β → γ → Prop} {b : β} {bs : List β} {cs : List γ}
    (h : List.Forall₂ R (bs ++ [b]) cs) :
    ∃ front c, cs = front ++ [c] ∧ List.Forall₂ R bs front ∧ R b c := by
  rw [← List.forall₂_reverse_iff, List.reverse_append] at h
  obtain ⟨c, front, hb, hbs, hcs⟩ := List.forall₂_cons_left_iff.1 h
  refine ⟨front.reverse, c, ?_, List.forall₂_reverse_iff.1 (by simpa using hbs), hb⟩
  simpa using congrArg List.reverse hcs

namespace Accounts

variable {given : List (Figure α)} {drawn : List (List (Figure α))}

theorem empty (layout : Options α) : (Document.empty layout).Accounts [] [] where
  toNumbered := numbered_empty layout
  given      := by simp
  binds      := .nil

theorem grow (h : d.Accounts given drawn) (hs : d.store.Grows s) :
    { d with store := s }.Accounts given drawn where
  toNumbered := h.toNumbered.grow hs
  given      := fun x hx => hs.keeps _ _ (h.given x hx)
  binds      := by
    rw [h.leaves_grow hs.keeps]
    exact h.binds.imp fun _ _ hb => hb.keeps hs.keeps

theorem closePage (h : d.Accounts given drawn) : d.closePage.Accounts given drawn where
  toNumbered := h.toNumbered.closePage
  given      := fun x hx => (grows_closePage h.tidy).keeps _ _ (h.given x hx)
  binds      := by
    rw [h.leaves_closePage]
    exact h.binds.imp fun _ _ hb => hb.keeps (grows_closePage h.tidy).keeps

theorem put {marks : List (Mark α)} (h : d.Accounts given drawn) (hm : Plain marks) (cursor : α) :
    ∃ k, (d.put marks cursor).pageCount = d.pageCount + k ∧
      (d.put marks cursor).Accounts given (drawn ++ List.replicate k []) := by
  have hn : (d.put marks cursor).Numbered := h.toNumbered.put hm
  have hl : (d.put marks cursor).leaves = d.finishedLeaves ++
      [{ d.page with marks := d.page.marks ++ marks, cursor := cursor }.leaf d.layout.page] := rfl
  cases hc : d.current with
  | none =>
    have hp : d.page = OpenPage.blank d.layout := by simp [page, hc]
    refine ⟨1, by simp [pageCount, Document.put, hc], hn, h.given, ?_⟩
    rw [hl, ← leaves_of_none hc, hp]
    exact List.rel_append h.binds (.cons ((Binds.blank _).put hm) .nil)
  | some p =>
    have hp : d.page = p := by simp [page, hc]
    refine ⟨0, by simp [pageCount, Document.put, hc], hn, h.given, ?_⟩
    have hbinds := h.binds
    rw [leaves_of_some hc] at hbinds
    obtain ⟨front, here, rfl, hfront, hb⟩ := forall₂_concat_left hbinds
    rw [hl, hp, List.replicate_zero, List.append_nil]
    exact List.rel_append hfront (.cons (hb.put hm) .nil)

theorem exists_steps (h : d.Accounts given drawn) (hs : d.Steps e ids) (hids : ids = []) :
    ∃ k, e.pageCount = d.pageCount + k ∧ e.Accounts given (drawn ++ List.replicate k []) := by
  induction hs with
  | start => exact ⟨0, rfl, by simpa using h⟩
  | close _ ih =>
    obtain ⟨k, hk, ha⟩ := ih hids
    refine ⟨k, ?_, ha.closePage⟩
    rw [← hk, ← length_leaves, ha.leaves_closePage, length_leaves]
  | grow _ hg ih =>
    obtain ⟨k, hk, ha⟩ := ih hids
    exact ⟨k, hk, ha.grow hg⟩
  | put cursor _ hm ih =>
    obtain ⟨k, hk, ha⟩ := ih hids
    obtain ⟨k', hk', ha'⟩ := ha.put hm cursor
    refine ⟨k + k', by omega, ?_⟩
    rwa [List.append_assoc, List.replicate_append_replicate] at ha'
  | draw => simp at hids

-- Pages that come of text have no figures.
theorem steps (h : d.Accounts given drawn) (hs : d.Steps e []) :
    e.Accounts given (drawn ++ List.replicate (e.pageCount - d.pageCount) []) := by
  obtain ⟨k, hk, ha⟩ := h.exists_steps hs rfl
  rwa [hk, Nat.add_sub_cancel_left]

theorem addFigure (h : d.Accounts given drawn) (figure : Stream α) :
    (d.addFigure figure).2.Accounts (given ++ [⟨(d.addFigure figure).1, figure⟩]) drawn where
  toNumbered := (h.grow (h.tidy.grows_add _)).toNumbered
  given      := by
    intro x hx
    rcases List.mem_append.1 hx with hx | hx
    · exact (h.grow (h.tidy.grows_add (.stream figure))).given x hx
    · rw [List.mem_singleton.1 hx]
      exact Store.at?_add ..
  binds      := (h.grow (h.tidy.grows_add _)).binds

theorem draw {here : List (Figure α)} {matrix : Matrix α} {cursor : α}
    (h : d.Accounts given (drawn ++ [here])) (hc : d.current.isSome) (hx : x ∈ given) :
    (d.draw x.id matrix cursor).Accounts given (drawn ++ [here ++ [x]]) where
  toNumbered := h.toNumbered.draw
  given      := h.given
  binds      := by
    obtain ⟨p, hp⟩ := Option.isSome_iff_exists.1 hc
    have hpage : d.page = p := by simp [page, hp]
    have hnamed : Named d.figureCount p.marks := hpage ▸ h.named
    have hbinds := h.binds
    rw [leaves_of_some hp] at hbinds
    obtain ⟨front, last, he, hfront, hb⟩ := forall₂_concat_left hbinds
    obtain ⟨rfl, hlast⟩ := List.append_inj' he rfl
    obtain ⟨rfl, -⟩ := List.cons.inj hlast
    rw [leaves_of_some rfl, hpage]
    exact List.rel_append hfront (.cons (hb.draw hnamed (h.given x hx)) .nil)

theorem drawFirst {matrix : Matrix α} {cursor : α} (h : d.Accounts given drawn)
    (hc : d.current = none) (hx : x ∈ given) :
    (d.draw x.id matrix cursor).Accounts given (drawn ++ [[x]]) where
  toNumbered := h.toNumbered.draw
  given      := h.given
  binds      := by
    have hpage : d.page = OpenPage.blank d.layout := by simp [page, hc]
    have hnamed : Named d.figureCount (OpenPage.blank d.layout : OpenPage α).marks := hpage ▸ h.named
    have hbinds := h.binds
    rw [leaves_of_none hc] at hbinds
    rw [leaves_of_some rfl, hpage]
    exact List.rel_append hbinds (.cons ((Binds.blank _).draw hnamed (h.given x hx)) .nil)

theorem figurePage {matrix : Matrix α} (h : d.Accounts given drawn) (hx : x ∈ given) :
    (d.appendFigurePage x.id matrix).Accounts given (drawn ++ [[x]]) := by
  rw [appendFigurePage_eq, Steps.openFigurePage_eq]
  exact (h.closePage.drawFirst current_closePage hx).closePage

-- What is drawn on the pages of a document is copied to the document that they are put into.
theorem at?_copy (ho : other.Paged) (hd : d.Paged) (hl : l ∈ other.leaves) {name : Bytes}
    (hr : l.resource? Leaf.figures name = some x.id)
    (hx : other.store.at? x.id = some (.stream x.stream)) :
    (d.closePage.merged other.closePage).store.at?
        ((d.closePage.copier other.closePage).numbering.apply x.id) =
      some (.stream (x.copy (d.closePage.copier other.closePage).numbering.apply).stream) := by
  have hid := (mem_copier_iff (d := d.closePage)).2
    (ho.exists_reaches ⟨l, hl, Leaf.figures, name, x.id, hr, .refl⟩)
  have hc : other.closePage.store.at? x.id = some (.stream x.stream) :=
    (grows_closePage ho.tidy).keeps _ _ hx
  obtain ⟨o, hat, hcopy⟩ := at?_merged hd.closePage.tidy hid hc (Indirect.solid_stream _)
  rcases hcopy with rfl | rfl <;> exact hat

theorem merge {given' : List (Figure α)} {drawn' : List (List (Figure α))}
    (h : d.Accounts given drawn) (ho : other.Accounts given' drawn') (i : Nat) :
    (d.merge other i).2.Accounts given (spliced (min i d.pageCount) drawn (drawn'.map
      (List.map (Figure.copy (d.closePage.copier other.closePage).numbering.apply)))) := by
  have hkeeps : d.store.Keeps (d.merge other i).2.store := h.keeps_merge other i
  refine ⟨h.toNumbered.merge ho.toPaged i, fun x hx => hkeeps _ _ (h.given x hx), ?_⟩
  have hold := h.binds.imp fun _ _ hb => hb.keeps hkeeps
  rw [h.leaves_merge ho.toPaged]
  refine List.rel_append (List.rel_append (List.forall₂_take _ hold) ?_) (List.forall₂_drop _ hold)
  rw [List.forall₂_map_left_iff, List.forall₂_map_right_iff]
  have hnew := (List.forall₂_and_left _ _).2 ⟨fun _ h => h, ho.binds⟩
  refine hnew.imp fun l figures hb => hb.2.renumber (ho.toPaged.named hb.1) fun name x hr hx => ?_
  rw [merge_eq]
  exact at?_copy ho.toPaged h.toPaged hb.1 hr hx

end Accounts

theorem Drawn.accounts {given : List (Figure α)} {drawn : List (List (Figure α))}
    (h : Drawn d given drawn) : d.Accounts given drawn := by
  induction h with
  | empty layout => exact .empty layout
  | text _ hw ih => exact ih.steps (.writing hw)
  | space lines _ ih => exact ih.steps (.addSpace ..)
  | newPage _ ih => exact ih.steps (.startNewPage _)
  | copy _ hs ih => exact ih.grow hs
  | addFigure figure _ ih => exact ih.addFigure figure
  | drawFigure matrix bottom _ hc hx ih => exact ih.draw hc hx
  | drawFirst matrix bottom _ hc hx ih => exact ih.drawFirst hc hx
  | figurePage matrix _ hx ih => exact ih.figurePage hx
  | merge i _ _ ih ih' => exact ih.merge ih' i

namespace Drawn

variable {given : List (Figure α)} {drawn : List (List (Figure α))}

theorem exists_drawFigure (h : Drawn d given drawn) (hx : x ∈ given) (matrix : Matrix α)
    (bottom : α) : ∃ drawn', Drawn (d.drawFigure x.id matrix bottom) given drawn' := by
  cases hc : d.current with
  | none => exact ⟨_, h.drawFirst matrix bottom hc hx⟩
  | some p =>
    have hbinds := h.accounts.binds
    rw [leaves_of_some hc] at hbinds
    obtain ⟨front, here, rfl, -, -⟩ := forall₂_concat_left hbinds
    exact ⟨_, h.drawFigure matrix bottom (by simp [hc]) hx⟩

theorem exists_appendFigures (h : Drawn d given drawn) (size : Dimensions α)
    (forms : List (Stream α × PageBox α)) :
    ∃ given' drawn', Drawn (d.appendFigures size forms) given' drawn' := by
  induction forms generalizing d given drawn with
  | nil => exact ⟨_, _, h⟩
  | cons form forms ih =>
    have hpage := (h.addFigure form.1).figurePage (x := ⟨(d.addFigure form.1).1, form.1⟩)
      (Placement.fitCentered form.2.dimensions size) (by simp)
    exact ih hpage

-- Embedding a file is such a run.
theorem exists_embedPages (h : Drawn d given drawn) (source : Store α) (size : Dimensions α) :
    ∃ given' drawn', Drawn (d.embedPages source size).2 given' drawn' := by
  have hline := h.text (.styled .body (announcement source.pages.length))
  rw [embedPages_eq]
  exact (hline.copy (hline.accounts.grows_copies source)).exists_appendFigures size _

theorem exists_drawPicture (h : Drawn d given drawn) (p : Picture.Raster) (page : Dimensions α)
    (proportion : α) :
    ∃ given' drawn', Drawn (d.drawPicture p page proportion) given' drawn' := by
  obtain ⟨given', x, hd, hid, hx⟩ : ∃ given' x, Drawn (d.addPicture p).2 given' drawn ∧
      (d.addPicture p).1 = x.id ∧ x ∈ given' := by
    unfold addPicture
    cases p.alpha with
    | none => exact ⟨_, _, h.addFigure _, rfl, List.mem_append_right _ (List.mem_singleton_self _)⟩
    | some alpha =>
      exact ⟨_, _, (h.addFigure _).addFigure _, rfl,
        List.mem_append_right _ (List.mem_singleton_self _)⟩
  obtain ⟨drawn', hdrawn⟩ := hd.exists_drawFigure hx
    (Placement.picture ⟨ofInt p.width, ofInt p.height⟩ page proportion)
    (Placement.picturePosition ⟨ofInt p.width, ofInt p.height⟩ page proportion).y
  rw [← hid] at hdrawn
  exact ⟨given', drawn', hdrawn⟩

-- So is putting an attachment into a document.
theorem exists_render {σ : Type} {w w' : σ} (h : Drawn d given drawn) {r : Renderer}
    {ctx : Rendering (StateM σ) α} {info : AttachmentInfo} {bytes : Bytes}
    (hr : ((r.render ctx d info bytes).run w).run = (.ok e, w')) :
    ∃ given' drawn', Drawn e given' drawn' :=
  Renderer.render_induction (P := fun e => ∃ given drawn, Drawn e given drawn)
    (fun text => ⟨_, _, h.text (.styled .body text)⟩) h.exists_embedPages h.exists_drawPicture hr

end Drawn

/-! ### Names that are kept -/

-- A page after more was put on it, the names on it still standing for what they stood for.
structure Retained (l l' : Leaf α) : Prop where
  marks : l.marks <+: l'.marks
  names : ∀ name ∈ l.drawn, l'.resource? Leaf.figures name = l.resource? Leaf.figures name

-- All pages of a document are in a later one, at their new positions.
structure Retains (d e : Document α) (position : Nat → Nat) : Prop where
  store : d.store.Keeps e.store
  pages : ∀ i l, d.leaves[i]? = some l →
            ∃ l', e.leaves[position i]? = some l' ∧ Retained l l'

namespace Retained

variable {l' l'' : Leaf α}

omit [Coordinate α] in
theorem refl (l : Leaf α) : Retained l l :=
  ⟨List.prefix_rfl, fun _ _ => rfl⟩

omit [Coordinate α] in
theorem trans (h : Retained l l') (h' : Retained l' l'') : Retained l l'' where
  marks := h.marks.trans h'.marks
  names := by
    intro name hn
    have hn' : name ∈ l'.drawn := by
      obtain ⟨text, matrix, hm, rfl⟩ := Leaf.mem_drawn_iff.1 hn
      exact Leaf.mem_drawn_iff.2 ⟨text, matrix, h.marks.subset hm, rfl⟩
    rw [h'.names name hn', h.names name hn]

theorem put {marks : List (Mark α)} {cursor : α} : Retained (p.leaf size)
    ({ p with marks := p.marks ++ marks, cursor := cursor }.leaf size) where
  marks := List.prefix_append ..
  names := fun _ _ => rfl

theorem draw {id : ObjectId} {matrix : Matrix α} {cursor : α} (hn : Named n p.marks) :
    Retained (p.leaf size) ((p.draw (figureName (n + 1)) id matrix cursor).leaf size) where
  marks := List.prefix_append ..
  names := fun _ => resource?_draw hn

end Retained

namespace Retains

variable {f : Document α} {position position' : Nat → Nat}

theorem refl (d : Document α) : Retains d d id :=
  ⟨.refl _, fun _ l hl => ⟨l, hl, .refl l⟩⟩

theorem trans (h : Retains d e position) (h' : Retains e f position') :
    Retains d f (position' ∘ position) where
  store := h.store.trans h'.store
  pages := by
    intro i l hl
    obtain ⟨l', hl', hr⟩ := h.pages i l hl
    obtain ⟨l'', hl'', hr'⟩ := h'.pages _ l' hl'
    exact ⟨l'', hl'', hr.trans hr'⟩

theorem of_leaves_eq (hk : d.store.Keeps e.store) (hl : e.leaves = d.leaves) : Retains d e id :=
  ⟨hk, fun _ l h => ⟨l, by rwa [hl], .refl l⟩⟩

-- The open page is replaced.
theorem turn (hp : Retained (d.page.leaf d.layout.page) (p.leaf d.layout.page)) :
    Retains d { d with figureCount := n, current := some p } id where
  store := .refl _
  pages := by
    intro i l hl
    have he : { d with figureCount := n, current := some p }.leaves =
        d.finishedLeaves ++ [p.leaf d.layout.page] := leaves_of_some rfl
    rw [he]
    cases hc : d.current with
    | none =>
      rw [leaves_of_none hc] at hl
      have hi := (List.getElem?_eq_some_iff.1 hl).1
      exact ⟨l, by rw [id, List.getElem?_append_left hi, hl], .refl l⟩
    | some q =>
      have hq : d.page = q := by simp [page, hc]
      rw [leaves_of_some hc, List.getElem?_append] at hl
      rw [id, List.getElem?_append]
      split at hl
      case isTrue hi => exact ⟨l, by rw [if_pos hi, hl], .refl l⟩
      case isFalse hi =>
        rw [if_neg hi]
        rw [List.getElem?_singleton] at hl ⊢
        obtain ⟨hz, hl⟩ := Option.ite_none_right_eq_some.1 hl
        cases hl
        exact ⟨_, if_pos hz, hq ▸ hp⟩

theorem steps (h : d.Numbered) (hs : d.Steps e ids) : Retains d e id := by
  induction hs with
  | start => exact .refl d
  | close hs ih =>
    have hn := h.steps hs
    exact ih.trans <| of_leaves_eq (grows_closePage hn.tidy).keeps hn.leaves_closePage
  | grow hs hg ih =>
    exact ih.trans <| of_leaves_eq hg.keeps ((h.steps hs).leaves_grow hg.keeps)
  | put _ _ _ ih => exact ih.trans <| .turn .put
  | draw _ _ _ hs ih => exact ih.trans <| .turn <| .draw (h.steps hs).named

end Retains

-- Where something is after as many others were put in front of position `i`.
def shifted (i count j : Nat) : Nat :=
  if j < i then j else j + count

theorem getElem?_spliced {β : Type} {l m : List β} {i : Nat} (hi : i ≤ l.length) (j : Nat) :
    (spliced i l m)[shifted i m.length j]? = l[j]? := by
  have ht : (l.take i).length = i := List.length_take_of_le hi
  unfold shifted spliced
  split
  case isTrue hj =>
    rw [List.append_assoc, List.getElem?_append_left (by omega), List.getElem?_take_of_lt hj]
  case isFalse hj =>
    rw [List.getElem?_append_right (by simp; omega), List.getElem?_drop]
    congr 1
    simp
    omega

theorem Retains.merge (h : d.Paged) (ho : other.Paged) (i : Nat) :
    Retains d (d.merge other i).2 (shifted (min i d.pageCount) other.pageCount) where
  store := h.keeps_merge other i
  pages := by
    intro j l hl
    refine ⟨l, ?_, .refl l⟩
    rw [h.leaves_merge ho, ← hl, ← getElem?_spliced (i := min i d.pageCount) (m := other.leaves.map
      (Leaf.renumber (d.closePage.copier other.closePage).numbering.apply)) _ j]
    · rw [List.length_map, length_leaves]
    · rw [length_leaves]
      exact Nat.min_le_right ..

-- What is done to a document later on, and where its pages are then.
inductive Onward (d : Document α) : Document α → (Nat → Nat) → Prop
  | start : Onward d d id
  | edit {e e' : Document α} {position : Nat → Nat} :
      Onward d e position → e.Edit e' → Onward d e' position
  | merge {e other : Document α} {position : Nat → Nat} {given : List (Figure α)}
      {drawn : List (List (Figure α))} (i : Nat) : Onward d e position → Drawn other given drawn →
      Onward d (e.merge other i).2 (shifted (min i e.pageCount) other.pageCount ∘ position)

theorem Onward.retains {position : Nat → Nat} (h : d.Numbered) (ho : d.Onward e position) :
    e.Numbered ∧ Retains d e position := by
  induction ho with
  | start => exact ⟨h, .refl d⟩
  | edit _ he ih =>
    obtain ⟨ids, hs⟩ := he.steps ih.1
    exact ⟨ih.1.steps hs, ih.2.trans (.steps ih.1 hs)⟩
  | merge i _ hd ih =>
    have hm : Retains _ _ _ := Retains.merge ih.1.toPaged hd.accounts.toPaged i
    exact ⟨ih.1.merge hd.accounts.toPaged i, ih.2.trans hm⟩

-- Each name on a page stands for what was handed over when it was drawn, and it does so for good.
theorem names_drawn {given : List (Figure α)} {drawn : List (List (Figure α))}
    (h : Drawn d given drawn) : List.Forall₂ (Binds d.store) d.leaves drawn ∧
      ∀ e position, d.Onward e position → Retains d e position :=
  ⟨h.accounts.binds, fun _ _ ho => (ho.retains h.accounts.toNumbered).2⟩

theorem drawn_poster : ∃ x : Figure Float32, Drawn (poster sampleLayout) [x] [[x], []] := by
  let figure : Stream Float32 := Stream.make [] (.bytes [])
  let matrix : Matrix Float32 := ⟨1, 0, 0, 1, 0, 0⟩
  let x : Figure Float32 := ⟨((empty sampleLayout).addFigure figure).1, figure⟩
  let d := ((empty sampleLayout).addFigure figure).2.appendFigurePage x.id matrix
  have hd : Drawn d [x] [[x]] :=
    ((Drawn.empty sampleLayout).addFigure figure).figurePage matrix (List.mem_singleton_self x)
  have hn : (d.writeStyled .heading "Room (3)").pageCount - d.pageCount = 1 := by decide +kernel
  have h := hd.text (.styled .heading "Room (3)")
  rw [hn] at h
  exact ⟨x, h⟩

theorem names_drawn_posters : ∃ d : Document Float32, ∃ x f,
    d = ((poster sampleLayout).merge (poster sampleLayout) 1).2 ∧
    Drawn d [x] [[x], [x.copy f], [], []] ∧
    List.Forall₂ (Binds d.store) d.leaves [[x], [x.copy f], [], []] ∧
      ∀ e position, d.Onward e position → Retains d e position := by
  obtain ⟨x, hx⟩ := drawn_poster
  have hi : min 1 (poster sampleLayout).pageCount = 1 := by decide +kernel
  have h := Drawn.merge 1 hx hx
  rw [hi] at h
  exact ⟨_, x, _, rfl, h, names_drawn h⟩

end Document
end AccessReport
