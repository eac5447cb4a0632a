import AccessReport.Attachment.Rendering
import AccessReport.Proofs.Figure

namespace AccessReport

open Coordinate Pdf

variable {α : Type} [Coordinate α]

namespace Document

variable {d d' : Document α} {front : List (Sheet α)} {f f' : Stream α} {id id' : ObjectId}

-- Two objects to be drawn that are the same but for the numbers of what they refer to.
structure Matches (s s' : Store α) (f f' : Stream α) : Prop where
  shape    : (Indirect.stream f).shape = (Indirect.stream f').shape
  children : List.Forall₂ (s.Alike s') (Indirect.stream f).children (Indirect.stream f').children

theorem Matches.keeps {s s' t t' : Store α} (h : Matches s s' f f') (hk : s.Keeps t)
    (hk' : s'.Keeps t') : Matches t t' f f' :=
  ⟨h.shape, h.children.imp fun _ _ ha => ha.keeps hk hk'⟩

namespace Sound

theorem continues_addFigure (h : d.Sound) (f : Stream α) : d.Continues (d.addFigure f).2 :=
  h.continues_grow <| h.tidy.grows_add _

theorem addFigure (h : d.Sound) (f : Stream α) : (d.addFigure f).2.Sound :=
  h.grow <| h.tidy.grows_add _

end Sound

namespace Beside

theorem addFigure (h : Beside front d d') (hm : Matches d.store d'.store f f') :
    Beside front (d.addFigure f).2 (d'.addFigure f').2 ∧
      (d.addFigure f).2.store.Alike (d'.addFigure f').2.store (d.addFigure f).1
        (d'.addFigure f').1 := by
  refine ⟨h.grow (h.left.tidy.grows_add _) (h.right.tidy.grows_add _), ?_⟩
  exact .add h.left.tidy h.right.tidy (Indirect.solid_stream _) hm.shape hm.children

end Beside

section Picture

variable {w h : Nat} {space : String} {samples : Bytes}

theorem matches_plane {s s' : Store α} :
    Matches s s' (plane w h space samples none) (plane w h space samples none) where
  shape    := rfl
  children := .nil

theorem matches_plane_of_alike {s s' : Store α} (ha : s.Alike s' id id') :
    Matches s s' (plane w h space samples (some id)) (plane w h space samples (some id')) where
  shape    := rfl
  children := .cons ha .nil

end Picture

theorem Beside.addPicture (h : Beside front d d') (p : Picture.Raster) :
    Beside front (d.addPicture p).2 (d'.addPicture p).2 ∧
      (d.addPicture p).2.store.Alike (d'.addPicture p).2.store (d.addPicture p).1
        (d'.addPicture p).1 := by
  unfold Document.addPicture
  cases p.alpha with
  | none => exact h.addFigure matches_plane
  | some alpha =>
    have ⟨hm, ha⟩ := h.addFigure (f := plane p.width p.height "DeviceGray" alpha none) matches_plane
    exact hm.addFigure <| matches_plane_of_alike ha

theorem Sound.continues_addPicture (h : d.Sound) (p : Picture.Raster) :
    d.Continues (d.addPicture p).2 := by
  unfold Document.addPicture
  cases p.alpha with
  | none => exact h.continues_addFigure _
  | some alpha => exact (h.continues_addFigure _).trans <| (h.addFigure _).continues_addFigure _

theorem Beside.drawPicture (h : Beside front d d') (p : Picture.Raster) (page : Dimensions α)
    (proportion : α) :
    Beside front (d.drawPicture p page proportion) (d'.drawPicture p page proportion) := by
  have ⟨hp, ha⟩ := h.addPicture p
  exact hp.drawFigure ha _ _

theorem Sound.continues_drawPicture (h : d.Sound) (p : Picture.Raster) (page : Dimensions α)
    (proportion : α) : d.Continues (d.drawPicture p page proportion) :=
  (h.continues_addPicture p).trans <| ((Beside.refl h).addPicture p).1.left.continues_drawFigure ..

section Form

variable {source : Store α} {c c' : Copier α} {page : ObjectId} {box : PageBox α}

theorem renumber_form (r : Object α) (g : ObjectId → ObjectId) :
    (Indirect.stream (form source page box (some r))).renumber g =
      .stream (form source page box (some (r.renumber g))) :=
  rfl

theorem references_form (r : Object α) :
    (Indirect.stream (form source page box (some r))).references = r.references := by
  have h : (Indirect.stream (form source page box (some r))).references = r.references ++ [] := rfl
  rw [h, List.append_nil]

theorem copyForm_of_none (h : source.inherited? "Resources" Store.ancestorLimit page = none) :
    copyForm source c page = (form source page (boxOf source page) none, c) := by
  simp [copyForm, h]

theorem copyForm_of_some {r : Object α}
    (h : source.inherited? "Resources" Store.ancestorLimit page = some r) :
    copyForm source c page =
      (form source page (boxOf source page)
        (some (r.renumber (c.copyAll source r.references).numbering.apply)),
        c.copyAll source r.references) := by
  simp [copyForm, h]

theorem faithful_copyForm (h : Copier.Faithful source c) :
    Copier.Faithful source (copyForm source c page).2 := by
  cases hr : source.inherited? "Resources" Store.ancestorLimit page with
  | none => rwa [copyForm_of_none hr]
  | some r =>
    rw [copyForm_of_some hr]
    exact h.copyAll _

theorem grows_copyForm (h : c.target.Tidy) : c.target.Grows (copyForm source c page).2.target := by
  cases hr : source.inherited? "Resources" Store.ancestorLimit page with
  | none =>
    rw [copyForm_of_none hr]
    exact .refl h
  | some r =>
    rw [copyForm_of_some hr]
    exact Copier.grows_copyAll h _

theorem grows_copyForms (h : c.target.Tidy) (pages : List ObjectId) :
    c.target.Grows (copyForms source c pages).2.target := by
  induction pages generalizing c with
  | nil => exact .refl h
  | cons page pages ih => exact (grows_copyForm h).trans <| ih (grows_copyForm h).tidy

-- What is drawn does not depend on the document that it is copied to.
theorem matches_copyForm (h : Copier.Faithful source c) (h' : Copier.Faithful source c') :
    Matches (copyForm source c page).2.target (copyForm source c' page).2.target
      (copyForm source c page).1 (copyForm source c' page).1 := by
  cases hr : source.inherited? "Resources" Store.ancestorLimit page with
  | none =>
    rw [copyForm_of_none hr, copyForm_of_none hr]
    exact ⟨rfl, .nil⟩
  | some r =>
    rw [copyForm_of_some hr, copyForm_of_some hr]
    constructor
    case shape => rw [← renumber_form, ← renumber_form, Indirect.shape_renumber,
      Indirect.shape_renumber]
    case children =>
      rw [← renumber_form, ← renumber_form, Indirect.children_renumber, Indirect.children_renumber,
        List.forall₂_map_left_iff, List.forall₂_map_right_iff, List.forall₂_same]
      intro x hx
      have hx := references_form r ▸ Indirect.children_subset _ hx
      exact (h.copyAll _).alike (h'.copyAll _) (Copier.subset_ids_copyAll _ hx)
        (Copier.subset_ids_copyAll _ hx)

theorem matches_copyForms (h : Copier.Faithful source c) (h' : Copier.Faithful source c')
    (pages : List ObjectId) :
    List.Forall₂
      (Matches (copyForms source c pages).2.target (copyForms source c' pages).2.target)
      (copyForms source c pages).1 (copyForms source c' pages).1 := by
  induction pages generalizing c c' with
  | nil => exact .nil
  | cons page pages ih =>
    have hc : Copier.Faithful source (copyForm source c page).2 := faithful_copyForm h
    have hc' : Copier.Faithful source (copyForm source c' page).2 := faithful_copyForm h'
    refine .cons ?_ (ih hc hc')
    exact (matches_copyForm h h').keeps (grows_copyForms hc.tidy _).keeps
      (grows_copyForms hc'.tidy _).keeps

end Form

-- Appends a page with nothing on it but one object that is not there yet.
def appendFigure (d : Document α) (f : Stream α) (matrix : Matrix α) : Document α :=
  (d.addFigure f).2.appendFigurePage (d.addFigure f).1 matrix

theorem Beside.appendFigure (h : Beside front d d') (hm : Matches d.store d'.store f f')
    (matrix : Matrix α) : Beside front (d.appendFigure f matrix) (d'.appendFigure f' matrix) := by
  have ⟨hd, ha⟩ := h.addFigure hm
  exact hd.appendFigurePage ha matrix

theorem Beside.continues_appendFigure (h : Beside front d d') (hm : Matches d.store d'.store f f')
    (matrix : Matrix α) :
    d.Continues (d.appendFigure f matrix) ∧ d'.Continues (d'.appendFigure f' matrix) := by
  have ⟨hd, ha⟩ := h.addFigure hm
  exact ⟨(h.left.continues_addFigure f).trans <| hd.left.continues_appendFigurePage ha.left matrix,
    (h.right.continues_addFigure f').trans <| hd.right.continues_appendFigurePage ha.right matrix⟩

-- Appends pages for objects that are scaled to their boxes.
def appendFigures (d : Document α) (size : Dimensions α) (forms : List (Stream α × PageBox α)) :
    Document α :=
  forms.foldl (fun d (f, box) => d.appendFigure f (Placement.fitCentered box.dimensions size)) d

theorem settled_appendFigures (h : d.Settled) (size : Dimensions α)
    (forms : List (Stream α × PageBox α)) : (d.appendFigures size forms).Settled := by
  induction forms generalizing d with
  | nil => exact h
  | cons f forms ih => exact ih settled_appendFigurePage

theorem Beside.appendFigures (h : Beside front d d') {s s' : Store α} (hk : s.Keeps d.store)
    (hk' : s'.Keeps d'.store) {forms forms' : List (Stream α)}
    (hm : List.Forall₂ (Matches s s') forms forms') (size : Dimensions α)
    (boxes : List (PageBox α)) :
    Beside front (d.appendFigures size (forms.zip boxes))
        (d'.appendFigures size (forms'.zip boxes)) ∧
      d.Continues (d.appendFigures size (forms.zip boxes)) := by
  induction hm generalizing d d' boxes with
  | nil => exact ⟨h, h.left.continues_refl⟩
  | cons hf hm ih =>
    cases boxes with
    | nil => exact ⟨h, h.left.continues_refl⟩
    | cons box boxes =>
      have hf := hf.keeps hk hk'
      have hd := h.appendFigure hf (Placement.fitCentered box.dimensions size)
      have ⟨hc, hc'⟩ := h.continues_appendFigure hf (Placement.fitCentered box.dimensions size)
      have ⟨hr, hcr⟩ := ih hd (hk.trans hc.store.keeps) (hk'.trans hc'.store.keeps) boxes
      exact ⟨hr, hc.trans hcr⟩

theorem embedPages_eq (source : Store α) (size : Dimensions α) :
    (d.embedPages source size).2 =
      let e := d.writeLine (announcement source.pages.length)
      let copied := copyForms source ⟨[], e.store⟩ source.pages
      { e with store := copied.2.target }.appendFigures size
        (copied.1.zip (source.pages.map (boxOf source))) :=
  rfl

theorem settled_embedPages {source : Store α} {size : Dimensions α} :
    (d.embedPages source size).2.Settled := by
  have h : (d.writeLine (announcement source.pages.length)).Settled := started_writeStyled.settled
  rw [embedPages_eq]
  refine settled_appendFigures ?_ _ _
  exact h

theorem Beside.embedPages (h : Beside front d d') (source : Store α) (size : Dimensions α) :
    Beside front (d.embedPages source size).2 (d'.embedPages source size).2 ∧
      d.Continues (d.embedPages source size).2 := by
  let text := announcement source.pages.length
  have hw := h.writeLine text
  have hf : Copier.Faithful source ⟨[], (d.writeLine text).store⟩ := .fresh hw.left.tidy
  have hf' : Copier.Faithful source ⟨[], (d'.writeLine text).store⟩ := .fresh hw.right.tidy
  have hg : (d.writeLine text).store.Grows
      (copyForms source ⟨[], (d.writeLine text).store⟩ source.pages).2.target :=
    grows_copyForms hf.tidy _
  have hg' : (d'.writeLine text).store.Grows
      (copyForms source ⟨[], (d'.writeLine text).store⟩ source.pages).2.target :=
    grows_copyForms hf'.tidy _
  have ⟨ha, hc⟩ := (hw.grow hg hg').appendFigures (.refl _) (.refl _)
    (matches_copyForms hf hf' source.pages) size (source.pages.map (boxOf source))
  rw [embedPages_eq, embedPages_eq]
  exact ⟨ha, (h.left.continues_writeStyled ..).trans <| (hw.left.continues_grow hg).trans hc⟩

end Document

namespace Renderer

open Document

variable {d d' e : Document α} {front : List (Sheet α)} {bytes : Bytes} {page : Dimensions α}

-- Shows the same in two documents, each behind what is there.
structure Shows (front : List (Sheet α)) (d e e' : Document α) : Prop where
  beside    : Beside front e e'
  continues : d.Continues e
  settled   : e.Settled

theorem drawImage_ok_iff {proportion : α} :
    drawImage d bytes page proportion = .ok e ↔
      ∃ p, Picture.decode bytes = .ok p ∧ (p.width ≠ 0 ∧ p.height ≠ 0) ∧
        d.drawPicture p page proportion = e := by
  unfold drawImage
  cases Picture.decode bytes with
  | error fault => simp
  | ok p =>
    by_cases hw : p.width = 0
    · simp [hw]
    · by_cases hh : p.height = 0 <;> simp [hw, hh]

theorem embedPdf_ok_iff :
    embedPdf d bytes page = .ok e ↔
      ∃ source : Store α, (∃ v, version bytes = .ok v) ∧ load bytes = .ok source ∧
        (d.embedPages source page).2 = e := by
  unfold embedPdf embed
  cases version bytes with
  | error failure => simp [bind, Except.bind, Except.map]
  | ok v => cases (load bytes : Except Fault (Store α)) <;> simp [bind, Except.bind, Except.map]

theorem embedConverted_ok_iff :
    embedConverted d bytes page = .ok e ↔ isPdf bytes = true ∧ embedPdf d bytes page = .ok e := by
  unfold embedConverted
  split <;> simp_all

theorem drawImage_ok {proportion : α} (h : Beside front d d')
    (hr : drawImage d bytes page proportion = .ok e) :
    ∃ e', drawImage d' bytes page proportion = .ok e' ∧ Shows front d e e' := by
  obtain ⟨p, hd, hp, rfl⟩ := drawImage_ok_iff.1 hr
  exact ⟨_, drawImage_ok_iff.2 ⟨p, hd, hp, rfl⟩, h.drawPicture .., h.left.continues_drawPicture ..,
    started_drawFigure.settled⟩

theorem embedPdf_ok (h : Beside front d d') (hr : embedPdf d bytes page = .ok e) :
    ∃ e', embedPdf d' bytes page = .ok e' ∧ Shows front d e e' := by
  obtain ⟨source, hv, hl, rfl⟩ := embedPdf_ok_iff.1 hr
  have ⟨hb, hc⟩ := h.embedPages source page
  exact ⟨_, embedPdf_ok_iff.2 ⟨source, hv, hl, rfl⟩, hb, hc, settled_embedPages⟩

theorem embedConverted_ok (h : Beside front d d') (hr : embedConverted d bytes page = .ok e) :
    ∃ e', embedConverted d' bytes page = .ok e' ∧ Shows front d e e' := by
  obtain ⟨hp, he⟩ := embedConverted_ok_iff.1 hr
  obtain ⟨e', he', hs⟩ := embedPdf_ok h he
  exact ⟨e', embedConverted_ok_iff.2 ⟨hp, he'⟩, hs⟩

-- What a renderer shows does not depend on what is in the document before.
theorem render_ok {σ : Type} {w w' : σ} (r : Renderer) {ctx : Rendering (StateM σ) α}
    {info : AttachmentInfo} (h : Beside front d d')
    (hr : ((r.render ctx d info bytes).run w).run = (.ok e, w')) :
    ∃ e', ((r.render ctx d' info bytes).run w).run = (.ok e', w') ∧ Shows front d e e' := by
  cases r with
  | image =>
    have ⟨hd, hw⟩ := Prod.mk.inj hr
    obtain ⟨e', he, hs⟩ := drawImage_ok h hd
    exact ⟨e', Prod.ext he hw, hs⟩
  | pdf =>
    have ⟨hd, hw⟩ := Prod.mk.inj hr
    obtain ⟨e', he, hs⟩ := embedPdf_ok h hd
    exact ⟨e', Prod.ext he hw, hs⟩
  | word =>
    cases hc : ctx.converter with
    | none =>
      simp only [render, hc] at hr
      cases (Prod.mk.inj hr).1
    | some convert =>
      simp only [render, hc, StateT.run_bind] at hr ⊢
      cases hv : (convert bytes info.filename).run w with
      | mk outcome w₁ =>
        cases outcome with
        | error failure =>
          simp only [hv] at hr
          cases (Prod.mk.inj hr).1
        | ok converted =>
          simp only [hv] at hr ⊢
          have ⟨hd, hw⟩ := Prod.mk.inj hr
          obtain ⟨e', he, hs⟩ := embedConverted_ok h hd
          exact ⟨e', Prod.ext he hw, hs⟩
  | placeholder =>
    have ⟨hd, hw⟩ := Prod.mk.inj hr
    cases hd
    exact ⟨_, Prod.ext rfl hw, h.writeLine _, h.left.continues_writeStyled ..,
      started_writeStyled.settled⟩

end Renderer
end AccessReport
