import AccessReport.Proofs.FrontMatter
import AccessReport.Proofs.Merging
import AccessReport.Proofs.Rendering
import AccessReport.Proofs.Running
import AccessReport.Report.Assembly

namespace AccessReport

open Coordinate Pdf

variable {σ α : Type} [Coordinate α]

namespace Document

variable {d : Document α}

theorem startNewPage_of_settled (h : d.Settled) :
    d.startNewPage = { d.closePage with current := some (OpenPage.blank d.layout) } := by
  have hb : d.current.any (·.marks.isEmpty) = false := by
    cases hc : d.current with
    | none => rfl
    | some p => simpa using h p hc
  simp [startNewPage, hb]

-- A new page behind what is in a document is like one of a new document.
theorem Sound.beside_startNewPage (h : d.Sound) (hs : d.Settled) :
    Beside d.sheets d.startNewPage (empty d.layout).startNewPage where
  left     := h.startNewPage
  right    := (sound_empty d.layout).startNewPage
  layout   := by simp [empty]
  finished := by
    rw [startNewPage_of_settled hs, startNewPage_of_settled (settled_empty _)]
    exact h.finished_closePage.trans (List.append_nil _).symm
  view     := by
    rw [startNewPage_of_settled hs, startNewPage_of_settled (settled_empty _)]
    rfl

end Document

namespace Assembler

variable (a : Assembler (StateM σ) α)

-- A new document under a heading.
def headed (text : String) : Document α :=
  (Document.empty a.options).startNewPage.writeHeading text

def headingTexts (text : String) : List Bytes :=
  (a.options.lines .heading text.toList).map WinAnsi.encode

def blockTexts (block : String) : List Bytes :=
  ((Text.lines block.toList).flatMap (a.options.lines .body)).map WinAnsi.encode

-- What is below the heading of a section: what the template of its service makes of its content,
-- or the listing of the content, or the sentinel.
def HasBlock (s : Section (StateM σ)) (block : String) : Prop :=
  match a.templates.find? s.service with
  | some template => template.render (Content.normalize? s.content) = .ok block
  | none          => block = s.content.elim "No data held" Content.preview

-- The pages of an attachment on its own: its heading, and what its renderer makes of its bytes.
def ShowsAttachment (w : σ) (x : Attachment (StateM σ)) (pages : List (Sheet α)) (w' : σ) : Prop :=
  ∃ bytes w₁ d,
    (x.read.run w).run = (.ok bytes, w₁) ∧
    (((a.renderers.resolve x.info.contentType).render a.rendering (a.headed x.info.heading) x.info
      bytes).run w₁).run = (.ok d, w') ∧
    pages = d.sheets ∧ a.headingTexts x.info.heading <+: pages.flatMap Sheet.texts

-- The pages of a section: those of its own, and those of each of its attachments.
def ShowsSection (w : σ) (s : Section (StateM σ)) (run : List (List (Sheet α))) (w' : σ) : Prop :=
  ∃ block own shows,
    a.HasBlock s block ∧ own = ((a.headed s.label).writeBlock block).sheets ∧
    own.flatMap Sheet.texts = a.headingTexts s.label ++ a.blockTexts block ∧
    Threaded a.ShowsAttachment w s.attachments shows w' ∧ run = own :: shows

-- What holds of the body between two sections, or two attachments.
structure Ready (d : Document α) : Prop where
  sound   : d.Sound
  settled : d.Settled
  layout  : d.layout = a.options

variable {a}

theorem ready_empty : a.Ready (.empty a.options) :=
  ⟨Document.sound_empty _, Document.settled_empty _, rfl⟩

theorem Ready.headed {d : Document α} (h : a.Ready d) (text : String) :
    Document.Beside d.sheets (d.startNewPage.writeHeading text) (a.headed text) := by
  have hb := (h.sound.beside_startNewPage h.settled).writeHeading text
  rwa [h.layout] at hb

theorem sound_headed (text : String) : (a.headed text).Sound :=
  (ready_empty.headed text).right

theorem layout_headed (text : String) : (a.headed text).layout = a.options := by
  simp [headed, Document.empty]

theorem texts_headed (text : String) : (a.headed text).texts = a.headingTexts text := by
  have hs := (Document.sound_empty a.options).startNewPage
  rw [headed, Document.writeHeading, hs.texts_writeStyled]
  simp [headingTexts, Document.startNewPage, Document.empty, Document.closePage, Document.texts,
    Document.shown, Document.sheets, Document.finished, Document.openSheet, Document.view,
    OpenPage.view, Document.OpenPage.blank]

section Attachment

variable {x : Attachment (StateM σ)} {service : String} {d e : Document α} {w w' : σ}

theorem renderAttachment_yields (h : Yields (a.renderAttachment service d x) w e w') :
    ∃ bytes w₁, (x.read.run w).run = (.ok bytes, w₁) ∧
      (((a.renderers.resolve x.info.contentType).render a.rendering
        (d.startNewPage.writeHeading x.info.heading) x.info bytes).run w₁).run = (.ok e, w') := by
  unfold renderAttachment at h
  dsimp only at h
  split at h
  case isTrue =>
    obtain ⟨_, _, ht, _⟩ := Yields.bind_iff.1 h
    exact absurd ht Yields.not_throw
  case isFalse =>
    obtain ⟨bytes, w₁, hread, hrender⟩ := Yields.bind_iff.1 h
    exact ⟨bytes, w₁, Yields.adapt_iff.1 hread, Yields.adapt_iff.1 hrender⟩

theorem renderAttachment_step (hd : a.Ready d)
    (h : Yields (a.renderAttachment service d x) w e w') :
    ∃ pages, a.ShowsAttachment w x pages w' ∧ a.Ready e ∧ e.sheets = d.sheets ++ pages := by
  obtain ⟨bytes, w₁, hread, hrender⟩ := renderAttachment_yields h
  have hb := hd.headed x.info.heading
  obtain ⟨e', he, hs⟩ := Renderer.render_ok _ hb hrender
  -- the same on its own, for what comes behind the heading
  obtain ⟨e'', he', hs'⟩ := Renderer.render_ok _ (.refl hb.right) he
  cases (Prod.mk.inj (he.symm.trans he')).1
  refine ⟨e'.sheets, ⟨bytes, w₁, e', hread, he, rfl, ?texts⟩, ⟨hs.beside.left, hs.settled, ?layout⟩,
    hs.beside.sheets⟩
  case texts =>
    rw [← Document.texts_eq_flatMap, ← texts_headed]
    exact hs'.continues.shown.filterMap _
  case layout =>
    rw [hs.continues.layout]
    simpa using hd.layout

theorem renderAttachments_step {xs : List (Attachment (StateM σ))} (hd : a.Ready d)
    (h : Yields (xs.foldlM (a.renderAttachment service) d) w e w') :
    ∃ shows, Threaded a.ShowsAttachment w xs shows w' ∧ a.Ready e ∧
      e.sheets = d.sheets ++ shows.flatten := by
  induction xs generalizing d w with
  | nil =>
    obtain ⟨rfl, rfl⟩ := Yields.pure_iff.1 h
    exact ⟨[], .nil _, hd, by simp⟩
  | cons x xs ih =>
    obtain ⟨d₁, w₁, hx, hxs⟩ := Yields.bind_iff.1 h
    obtain ⟨pages, hp, hd₁, hs⟩ := renderAttachment_step hd hx
    obtain ⟨shows, ht, he, hr⟩ := ih hd₁ hxs
    exact ⟨pages :: shows, .cons hp ht, he, by simp [hr, hs]⟩

end Attachment

section Section

variable {s : Section (StateM σ)} {b b' : Body α} {w w' : σ}

omit [Coordinate α] in
theorem hasBlock_of_block {block : String} (h : a.block s = .ok block) : a.HasBlock s block := by
  unfold Assembler.block at h
  unfold HasBlock
  cases ht : a.templates.find? s.service with
  | some template =>
    simp only [ht] at h ⊢
    cases hr : template.render (Content.normalize? s.content) with
    | error failure =>
      rw [hr] at h
      cases h
    | ok text =>
      rw [hr] at h
      cases h
      rfl
  | none =>
    simp only [ht] at h ⊢
    cases hc : s.content with
    | none =>
      simp only [hc] at h
      exact (Except.ok.inj h).symm
    | some content =>
      simp only [hc] at h
      exact (Except.ok.inj h).symm

theorem renderSection_yields (h : Yields (a.renderSection b s) w b' w') :
    ∃ block d, a.block s = .ok block ∧
      Yields (s.attachments.foldlM (a.renderAttachment s.service)
        ((b.document.startNewPage.writeHeading s.label).writeBlock block)) w d w' ∧
      b' = ⟨d, b.rows ++
        [⟨s.label, (b.document.startNewPage.writeHeading s.label).currentIndex⟩]⟩ := by
  unfold renderSection at h
  dsimp only at h
  obtain ⟨block, _, hblock, hrest⟩ := Yields.bind_iff.1 h
  obtain ⟨hb, rfl⟩ := Yields.except_iff.1 hblock
  obtain ⟨d, _, hd, hpure⟩ := Yields.bind_iff.1 hrest
  obtain ⟨rfl, rfl⟩ := Yields.pure_iff.1 hpure
  exact ⟨block, d, hb, hd, rfl⟩

-- The last page of the heading is the one that is open.
theorem currentIndex_writeHeading (hd : a.Ready b.document) :
    (b.document.startNewPage.writeHeading s.label).currentIndex =
      b.document.sheets.length + (a.headed s.label).pageCount - 1 := by
  have hl : (b.document.startNewPage.writeHeading s.label).pageCount =
      b.document.sheets.length + (a.headed s.label).pageCount := by
    rw [← Document.length_sheets, (hd.headed s.label).sheets, List.length_append,
      Document.length_sheets (d := a.headed s.label)]
  have hs : (b.document.startNewPage.writeHeading s.label).Started := Document.started_writeHeading
  rw [hs.pageCount] at hl
  omega

theorem renderSection_step (hd : a.Ready b.document) (h : Yields (a.renderSection b s) w b' w') :
    ∃ run, a.ShowsSection w s run w' ∧ a.Ready b'.document ∧
      b'.document.sheets = b.document.sheets ++ run.flatten ∧
      b'.rows = b.rows ++
        [⟨s.label, b.document.sheets.length + (a.headed s.label).pageCount - 1⟩] := by
  obtain ⟨block, d, hb, ha, rfl⟩ := renderSection_yields h
  have hh := (hd.headed s.label).writeBlock block
  have hr : a.Ready ((b.document.startNewPage.writeHeading s.label).writeBlock block) :=
    ⟨hh.left, (Document.started_writeHeading.writeBlock block).settled, by simpa using hd.layout⟩
  obtain ⟨shows, ht, he, hs⟩ := renderAttachments_step hr ha
  refine ⟨_, ⟨block, _, shows, hasBlock_of_block hb, rfl, ?_, ht, rfl⟩, he, ?_, ?_⟩
  · rw [← Document.texts_eq_flatMap, (sound_headed _).texts_writeBlock, texts_headed, layout_headed]
    rfl
  · rw [hs, hh.sheets]
    simp
  · rw [currentIndex_writeHeading hd]

end Section

variable (a) in
-- The rows of the contents for sections that start behind `n` pages.
def rowsFrom (n : Nat) : List (Section (StateM σ)) → List (List (List (Sheet α))) → List ContentsRow
  | s :: sections, run :: runs =>
    ⟨s.label, n + (a.headed s.label).pageCount - 1⟩ ::
      rowsFrom (n + run.flatten.length) sections runs
  | _, _ => []

theorem renderSections_step {sections : List (Section (StateM σ))} {b b' : Body α} {w w' : σ}
    (hd : a.Ready b.document) (h : Yields (sections.foldlM a.renderSection b) w b' w') :
    ∃ runs, Threaded a.ShowsSection w sections runs w' ∧ a.Ready b'.document ∧
      b'.document.sheets = b.document.sheets ++ runs.flatMap List.flatten ∧
      b'.rows = b.rows ++ a.rowsFrom b.document.sheets.length sections runs := by
  induction sections generalizing b w with
  | nil =>
    obtain ⟨rfl, rfl⟩ := Yields.pure_iff.1 h
    exact ⟨[], .nil _, hd, by simp, by simp [rowsFrom]⟩
  | cons s sections ih =>
    obtain ⟨b₁, w₁, hs, hrest⟩ := Yields.bind_iff.1 h
    obtain ⟨run, hrun, hd₁, hsheets, hrows⟩ := renderSection_step hd hs
    obtain ⟨runs, hruns, hd', hsheets', hrows'⟩ := ih hd₁ hrest
    refine ⟨run :: runs, .cons hrun hruns, hd', ?_, ?_⟩
    · simp [hsheets', hsheets]
    · simp [hrows', hrows, hsheets, rowsFrom]

variable (a) in
-- The contents as they are printed, with the pages of the sections counted from the internal cover.
def printedContents (report : Report α) (rows : List ContentsRow) : Document α :=
  .contents a.options (some (1 + report.contentsPages + 1)) rows

variable (a) in
-- The rear page on its own.
def rear (subject : SubjectDetails) : Document α :=
  (Document.empty a.options).startNewPage.writeRearPage subject

variable (a) in
-- The parts of a report in front of its sections.
def frontMatter (report : Report α) (subject : SubjectDetails) (rows : List ContentsRow) :
    List (Document α) :=
  [.externalCover a.options subject, .internalCover a.options subject report.totalPages,
    a.printedContents report rows]

theorem finish_ok {subject : SubjectDetails} {b : Body α} {report : Report α}
    (h : a.finish subject b = .ok report) :
    report.contentPages = (b.document.startNewPage.writeRearPage subject).pageCount - 1 ∧
      report.contentsPages = (a.printedContents report b.rows).pageCount ∧
      report.document = Document.join a.options
        (a.frontMatter report subject b.rows ++
          [b.document.startNewPage.writeRearPage subject]) := by
  unfold finish at h
  dsimp only at h
  split at h
  case isTrue => cases h
  case isFalse hp =>
    cases h
    exact ⟨rfl, (Decidable.not_not.1 hp).symm, rfl⟩

theorem contentsPages_finish {subject : SubjectDetails} {b : Body α} {report : Report α}
    (h : a.finish subject b = .ok report) :
    report.contentsPages = (Document.contents a.options none b.rows).pageCount := by
  unfold finish at h
  dsimp only at h
  split at h
  case isTrue => cases h
  case isFalse =>
    cases h
    rfl

variable (a) in
-- A report as it comes from the pages of its sections.
structure Assembled (w : σ) (r : Request (StateM σ)) (report : Report α)
    (runs : List (List (List (Sheet α)))) (w' : σ) : Prop where
  sections : Threaded a.ShowsSection w r.sections runs w'
  sound    : report.document.Sound
  closed   : report.document.current = none
  sheets   : report.document.sheets =
    (a.frontMatter report r.subject (a.rowsFrom 0 r.sections runs)).flatMap Document.sheets ++
      runs.flatMap List.flatten ++ (a.rear r.subject).sheets
  contents : report.contentsPages =
    (a.printedContents report (a.rowsFrom 0 r.sections runs)).pageCount
  content  : report.contentPages =
    (runs.flatMap List.flatten).length + (a.rear r.subject).pageCount - 1

theorem sound_frontMatter {report : Report α} {subject : SubjectDetails}
    {rows : List ContentsRow} : ∀ d ∈ a.frontMatter report subject rows, d.Sound := by
  intro d hd
  simp only [frontMatter, List.mem_cons, List.not_mem_nil, or_false] at hd
  rcases hd with rfl | rfl | rfl
  · exact Document.sound_externalCover ..
  · exact Document.sound_internalCover ..
  · exact Document.sound_contents ..

theorem Ready.beside_rear {d : Document α} (h : a.Ready d) (subject : SubjectDetails) :
    Document.Beside d.sheets (d.startNewPage.writeRearPage subject) (a.rear subject) := by
  have hn := h.sound.beside_startNewPage h.settled
  rw [h.layout] at hn
  exact hn.writeRearPage subject

theorem Ready.sound_parts {d : Document α} (h : a.Ready d) (report : Report α)
    (subject : SubjectDetails) (rows : List ContentsRow) :
    ∀ p ∈ a.frontMatter report subject rows ++ [d.startNewPage.writeRearPage subject],
      p.Sound := by
  intro p hp
  rcases List.mem_append.1 hp with hp | hp
  · exact sound_frontMatter p hp
  · rw [List.mem_singleton.1 hp]
    exact (h.beside_rear subject).left

theorem assemble_yields {w w' : σ} {r : Request (StateM σ)} {report : Report α}
    (h : Yields (a.assemble r) w report w') :
    a.options.validate = .ok () ∧ ∃ runs, a.Assembled w r report runs w' := by
  unfold assemble at h
  split at h
  case h_1 => exact absurd h Yields.not_throw
  case h_2 hv =>
    obtain ⟨b, w₁, hb, hrest⟩ := Yields.bind_iff.1 h
    obtain ⟨hf, rfl⟩ := Yields.except_iff.1 hrest
    obtain ⟨runs, hruns, hd, hsheets, hrows⟩ := renderSections_step ready_empty hb
    obtain ⟨hcontent, hcontents, hdocument⟩ := finish_ok hf
    have hrear := hd.beside_rear r.subject
    have hparts := hd.sound_parts report r.subject b.rows
    simp only [Document.sheets_empty, List.nil_append, List.length_nil] at hsheets hrows
    have ⟨hsound, hclosed, _⟩ := Document.join_spec a.options hparts
    refine ⟨hv, runs, hruns, hdocument ▸ hsound, hdocument ▸ hclosed, ?_, hrows ▸ hcontents, ?_⟩
    · rw [hdocument, Document.sheets_join _ hparts, ← hrows, List.flatMap_append, ← hsheets]
      simp [hrear.sheets]
    · rw [hcontent, ← Document.length_sheets, hrear.sheets, hsheets, List.length_append,
        Document.length_sheets (d := a.rear r.subject)]

end Assembler
end AccessReport
