import AccessReport.Proofs.ContentsPasses
import AccessReport.Proofs.Items
import AccessReport.Proofs.Validation

namespace AccessReport

open Coordinate Pdf

/-! ### Options as they are made -/

namespace Options

-- The size that options begin with is within the bounds.
theorem clamp_ten :
    clamp leastFontSize largestFontSize (ofInt 10) = (ofInt 10 : Float32) := by
  have hl : ¬(ofInt 10 : Float32) < leastFontSize := by decide +kernel
  have hh : ¬(largestFontSize : Float32) < ofInt 10 := by decide +kernel
  rw [clamp, if_neg hl, if_neg hh]

-- Whatever else is set, the size of the font is a clamped one.
theorem Made.exists_fontSize {o : Options Float32} (h : Made o) :
    ∃ x, o.fontSize = clamp leastFontSize largestFontSize x := by
  induction h with
  | ofDate date => exact ⟨ofInt 10, clamp_ten.symm⟩
  | fontSize size => exact ⟨size, rfl⟩
  | pageSize | margin | headingFontSize | lineSpacing | imageProportion | compression
  | reportDate => assumption

theorem Made.exists_withFontSize {o : Options Float32} (h : Made o) :
    ∃ x, o = o.withFontSize x := by
  obtain ⟨x, hx⟩ := h.exists_fontSize
  exact ⟨x, by rw [withFontSize, ← hx]⟩

end Options

namespace Assembler

variable {σ α : Type} [Coordinate α] {a : Assembler (StateM σ) α} {w w' : σ}

/-! ### Pages -/

variable (a) in
-- How many pages a report gets with these sections: those of both covers, of the contents, and of
-- the sections with the rear page behind them.
def pageCount (subject : SubjectDetails) (b : Body α) : Nat :=
  let contents := (Document.contents a.options none b.rows).pageCount
  let body := (b.document.startNewPage.writeRearPage subject).pageCount
  (Document.externalCover a.options subject).pageCount +
    (Document.internalCover a.options subject (Report.total (body - 1) contents)).pageCount +
    contents + body

variable (a) in
-- The request gives `n` pages, if nothing fails before they can be counted.
def Gives (w : σ) (r : Request (StateM σ)) (n : Nat) : Prop :=
  a.options.validate = .ok () ∧
    ∃ b w', Yields (a.renderBody r.sections) w b w' ∧ n = a.pageCount r.subject b

section Pages

variable {sections : List (Section (StateM σ))} {runs : List (List (List (Sheet α)))}
  {s : Section (StateM σ)} {run : List (List (Sheet α))} {b : Body α} {subject : SubjectDetails}

-- A section takes the pages of its heading at least.
theorem ShowsSection.length_headed_le (h : a.ShowsSection w s run w') :
    (a.headed s.label).pageCount ≤ run.flatten.length := by
  obtain ⟨block, _, shows, -, rfl, -, -, rfl⟩ := h
  have hd : (a.headed s.label).Sound := sound_headed s.label
  have hl := (hd.continues_writeBlock block).sheets.length_le
  rw [List.flatten_cons, List.length_append, ← Document.length_sheets]
  omega

-- Sections start on pages that are there.
theorem page_lt_of_mem_rowsFrom (h : Threaded a.ShowsSection w sections runs w') {n : Nat}
    {row : ContentsRow} (hr : row ∈ a.rowsFrom n sections runs) :
    row.page < n + (runs.flatMap List.flatten).length := by
  induction h generalizing n with
  | nil => cases hr
  | @cons _ _ _ s _ run _ hs _ ih =>
    have hl := hs.length_headed_le
    have hp : 0 < (a.headed s.label).pageCount := Document.started_writeHeading.pos
    rw [List.flatMap_cons, List.length_append]
    rcases List.mem_cons.1 hr with rfl | hr
    · dsimp only
      omega
    · have := ih hr
      omega

-- The number in a row of the contents is less than the number of all pages.
theorem number_lt_pageCount (h : Yields (a.renderBody sections) w b w') {row : ContentsRow}
    (hr : row ∈ b.rows) : 1 + (Document.contents a.options none b.rows).pageCount + 1 + row.page <
      a.pageCount subject b := by
  obtain ⟨runs, hruns, hd, hsheets, hrows⟩ := renderSections_step ready_empty h
  simp only [Document.sheets_empty, List.nil_append, List.length_nil] at hsheets hrows
  rw [hrows] at hr
  have hpage := page_lt_of_mem_rowsFrom hruns hr
  have hbody := congrArg List.length (hd.beside_rear subject).sheets
  rw [List.length_append, hsheets, Document.length_sheets, Document.length_sheets] at hbody
  have hrear : 0 < (a.rear subject).pageCount := (Document.started_writeRearPage _).pos
  have hexternal := (Document.started_externalCover a.options subject).pos
  have hinternal := (Document.started_internalCover a.options subject (Report.total
    ((b.document.startNewPage.writeRearPage subject).pageCount - 1)
    (Document.contents a.options none b.rows).pageCount)).pos
  unfold pageCount
  dsimp only
  omega

-- These are the pages that the report has.
theorem gives_pageCount {r : Request (StateM σ)} {report : Report α}
    (h : Yields (a.assemble r) w report w') : a.Gives w r report.document.pageCount := by
  have hv := (assemble_yields h).1
  unfold assemble at h
  rw [hv] at h
  obtain ⟨b, w₁, hb, hrest⟩ := Yields.bind_iff.1 h
  obtain ⟨hf, -⟩ := Yields.except_iff.1 hrest
  refine ⟨hv, b, w₁, hb, ?_⟩
  obtain ⟨-, -, hd, -, -⟩ := renderSections_step ready_empty hb
  obtain ⟨hcontent, hnumbered, hdocument⟩ := finish_ok hf
  rw [← Document.length_sheets, hdocument, Document.sheets_join _ (hd.sound_parts _ _ _),
    pageCount, ← hcontent, ← contentsPages_finish hf]
  simp only [frontMatter, List.cons_append, List.nil_append, List.flatMap_cons, List.flatMap_nil,
    List.append_nil, List.length_append, Document.length_sheets, Report.totalPages]
  omega

end Pages

/-! ### The whole report -/

section Report

variable {a : Assembler (StateM σ) Float32} {r : Request (StateM σ)}

-- With numbers of up to six digits the parts of a report fit together.
theorem exists_finish {b : Body Float32} (ho : a.options.Made)
    (h : ∀ row ∈ b.rows,
      1 + (Document.contents a.options none b.rows).pageCount + 1 + row.page < 10 ^ 6)
    (subject : SubjectDetails) : ∃ report, a.finish subject b = .ok report := by
  obtain ⟨x, hx⟩ := ho.exists_withFontSize
  have hrows (row) (hrow : row ∈ b.rows) :
      a.options.rowLines .body row.label.toList (natText
        (1 + (Document.contents a.options none b.rows).pageCount + 1 + row.page)).toList =
        a.options.rowLines .body row.label.toList [] := by
    rw [toList_natText, hx]
    refine a.options.rowLines_withFontSize x _ (Decimal.length_digitsOf_le (by decide) ?_)
    rw [← hx]
    exact h row hrow
  obtain ⟨t, ht, -⟩ := Document.contents_abreast a.options hrows
  unfold finish
  dsimp only
  rw [if_neg (not_not.2 ht.pageCount_eq)]
  exact ⟨_, rfl⟩

-- Behind the items nothing fails.
theorem assemble_finishes_iff {outcome : Except Failure Unit} (ho : a.options.Made)
    (hp : ∀ n, a.Gives w r n → n < 10 ^ 6) (hv : a.options.validate = .ok ()) :
    Finishes (a.assemble r) w outcome w' ↔ a.Proceeds w r.items outcome w' := by
  have finishes {outcome : Except Failure Unit} {w' : σ} (h : a.Proceeds w r.items outcome w') :
      Finishes (a.assemble r) w outcome w' := by
    cases outcome with
    | error failure => exact h.assemble hv
    | ok _ =>
      obtain ⟨b, hb⟩ : ∃ b, Yields (a.renderBody r.sections) w b w' := h.renderSections _
      obtain ⟨report, hf⟩ := exists_finish ho (fun row hrow =>
        (number_lt_pageCount hb hrow).trans (hp _ ⟨hv, b, w', hb, rfl⟩)) r.subject
      unfold assemble
      rw [hv]
      exact .bind_of_yields hb ⟨report, Yields.except_iff.2 ⟨hf, rfl⟩⟩
  refine ⟨fun h => ?_, finishes⟩
  obtain ⟨outcome₁, w₁, hr⟩ := Proceeds.total a w r.items
  obtain ⟨rfl, rfl⟩ := h.unique (finishes hr)
  exact hr

-- A report fails just when its options are no good or one of its items fails; what is said is what
-- is wrong with the first of these, and what is behind it is not even looked at.
theorem assemble_first_failure (ho : a.options.Made) (hp : ∀ n, a.Gives w r n → n < 10 ^ 6) :
    (∀ failure w', ((a.assemble r).run.run w).run = (.error failure, w') ↔
      (∃ fault, a.options.validate = .error fault ∧ failure = .invalidOptions fault.message ∧
        w' = w) ∨
      a.options.validate = .ok () ∧ ∃ front item, front ++ [item] <+: r.items ∧
        a.FailsBehind w front item failure w') ∧
    (∀ w', (∃ report, Yields (a.assemble r) w report w') ↔
      a.options.validate = .ok () ∧ a.Proceeds w r.items (.ok ()) w') ∧
    ∀ front item failure w', a.options.validate = .ok () →
      a.FailsBehind w front item failure w' → ∀ other : Request (StateM σ),
        front ++ [item] <+: other.items →
        ((a.assemble other).run.run w).run = (.error failure, w') := by
  refine ⟨fun failure w' => ?error, fun w' => ?ok, ?other⟩
  case error =>
    cases hv : a.options.validate with
    | error fault =>
      rw [assemble_of_fault hv, Prod.mk.injEq, Except.error.injEq]
      constructor
      · rintro ⟨rfl, rfl⟩
        exact .inl ⟨fault, rfl, rfl, rfl⟩
      · rintro (⟨_, ⟨⟩, rfl, rfl⟩ | ⟨⟨⟩, _⟩)
        exact ⟨rfl, rfl⟩
    | ok _ =>
      have hiff : Finishes (a.assemble r) w (.error failure) w' ↔ _ :=
        assemble_finishes_iff ho hp hv
      refine hiff.trans <| Proceeds.error_iff.trans ⟨fun h => .inr ⟨rfl, h⟩, ?_⟩
      rintro (⟨_, ⟨⟩, _⟩ | ⟨-, h⟩)
      exact h
  case ok =>
    constructor
    · intro h
      have hv := (assemble_yields h.choose_spec).1
      exact ⟨hv, (assemble_finishes_iff ho hp hv).1 h⟩
    · exact fun ⟨hv, h⟩ => (assemble_finishes_iff ho hp hv).2 h
  case other =>
    intro front item failure w' hv hf other hi
    exact (Proceeds.error_iff.2 ⟨front, item, hi, hf⟩).assemble hv

-- An attachment whose number is noted when it is read.
def noted (info : AttachmentInfo) (read : Except String Bytes) : Attachment (StateM (List Nat)) where
  info := info
  read := fun notes => (read, notes ++ [info.number])

def noting : Assembler (StateM (List Nat)) Float32 where
  options := sample.options

-- The second of three attachments cannot be read.
def brokenRequest : Request (StateM (List Nat)) where
  subject  := sampleRequest.subject
  sections := [{
    service     := "court-case-service"
    label       := "Court Case Service"
    attachments := [
      noted ⟨1, "notes.zip", "Notes", "application/zip"⟩ (.ok []),
      noted ⟨2, "scan.png", "Scan", "image/png"⟩ (.error "gone"),
      noted ⟨3, "more.zip", "More", "application/zip"⟩ (.ok [])] }]

theorem assemble_first_failure_broken :
    sample.options.Made ∧ (∀ n, sample.Gives () sampleRequest n → n < 10 ^ 6) ∧
    (∃ report, Yields (sample.assemble sampleRequest) () report ()) ∧
    noting.options.Made ∧ (∀ n, noting.Gives [] brokenRequest n → n < 10 ^ 6) ∧
    ((noting.assemble brokenRequest).run.run []).run = (.error
      (.attachment "court-case-service" 2 "scan.png" (.io "gone")), [1, 2]) := by
  have hzip : RendererRegistry.standard.resolve "application/zip" = .placeholder := by
    decide +kernel
  have hp : ∀ n, sample.Gives () sampleRequest n → n < 10 ^ 6 := by
    rintro n ⟨-, b, w, hb, rfl⟩
    have hall : ((sample.renderBody sampleRequest.sections).run.run ()).run.1.toOption.all
        (fun b => sample.pageCount sampleRequest.subject b < 10 ^ 6) = true := by decide +kernel
    rw [hb] at hall
    exact of_decide_eq_true hall
  have hr : sample.Proceeds () sampleRequest.items (.ok ()) () :=
    .next (.listing rfl) (.next (.of_placeholder (by decide) rfl hzip) (.done _))
  have hf : noting.FailsBehind [] (brokenRequest.items.take 2) (.attachment "court-case-service"
      (noted ⟨2, "scan.png", "Scan", "image/png"⟩ (.error "gone")))
      (.attachment "court-case-service" 2 "scan.png" (.io "gone")) [1, 2] :=
    ⟨_, .next (.listing rfl) (.next (.of_placeholder (by decide) rfl hzip) (.done _)),
      .readFails (by decide) rfl⟩
  have hi : brokenRequest.items.take 2 ++ [.attachment "court-case-service"
      (noted ⟨2, "scan.png", "Scan", "image/png"⟩ (.error "gone"))] <+: brokenRequest.items :=
    List.prefix_append _ _
  have hp' : ∀ n, noting.Gives [] brokenRequest n → n < 10 ^ 6 := by
    rintro n ⟨-, b, w, hb, rfl⟩
    have hok : Finishes (noting.renderBody brokenRequest.sections) [] (.ok ()) w := ⟨b, hb⟩
    cases (hok.unique ((Proceeds.error_iff.2 ⟨_, _, hi, hf⟩).renderSections _)).1
  have ho : sample.options.Made := .ofDate _
  have ho' : noting.options.Made := ho
  have hv : sample.options.validate = .ok () := eq_ok_of_isSome (by decide +kernel) ()
  exact ⟨ho, hp, ((assemble_first_failure ho hp).2.1 ()).2 ⟨hv, hr⟩, ho', hp',
    ((assemble_first_failure ho' hp').1 _ _).2 (.inr ⟨hv, _, _, hi, hf⟩)⟩

end Report

end Assembler
end AccessReport
