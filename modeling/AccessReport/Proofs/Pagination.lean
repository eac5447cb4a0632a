import AccessReport.Number.Coordinate
import AccessReport.Proofs.Assembly
import AccessReport.Proofs.Finishing

namespace AccessReport

open Coordinate Pdf

-- The pages of a report as a file, in the order of its page tree.
def Report.sheets {α : Type} [Coordinate α] (report : Report α) : List (Sheet α) :=
  report.document.finish.pages.map report.document.store.sheet

namespace Assembler

-- A report on one service with an attachment.
def sample : Assembler (StateM Unit) Float32 where
  options := .ofDate ⟨2024, 5, 2, by decide⟩

def sampleRequest : Request (StateM Unit) where
  subject  := { name := "Joe Bloggs", caseReference := "SAR-1" }
  sections := [{
    service     := "court-case-service"
    label       := "Court Case Service"
    attachments := [.ofBytes ⟨1, "notes.zip", "Notes", "application/zip"⟩ []] }]

variable {σ α : Type} [Coordinate α] {a : Assembler (StateM σ) α} {r : Request (StateM σ)}
  {report : Report α} {runs : List (List (List (Sheet α)))} {w w' : σ}

namespace Assembled

theorem reportSheets (h : a.Assembled w r report runs w') :
    report.sheets =
      (a.frontMatter report r.subject (a.rowsFrom 0 r.sections runs)).flatMap Document.sheets ++
        runs.flatMap List.flatten ++ (a.rear r.subject).sheets := by
  rw [Report.sheets, h.sound.pages_finish, Document.closePage_of_none h.closed, ← h.sheets,
    Document.sheets_of_none h.closed, Document.finished]

variable (h : a.Assembled w r report runs w')
include h

theorem contentPages_add_one : report.contentPages + 1 =
    (runs.flatMap List.flatten).length + (a.rear r.subject).pageCount := by
  have hr : 0 < (a.rear r.subject).pageCount := (Document.started_writeRearPage _).pos
  have hc := h.content
  omega

-- One page for each cover is in the number of pages, however many they take.
theorem length_sheets : report.sheets.length + 2 =
    report.pageCount + (Document.externalCover a.options r.subject).pageCount +
      (Document.internalCover a.options r.subject report.totalPages).pageCount := by
  have hc := h.contentPages_add_one
  simp only [h.reportSheets, frontMatter, List.flatMap_cons, List.flatMap_nil, List.append_nil,
    List.length_append, Document.length_sheets, Report.pageCount, Report.totalPages, Report.total,
    h.contents]
  omega

end Assembled

-- The pages of sections, attachments and the rear matter follow each other, and none of them has
-- anything of two of these on it.
theorem assemble_sheets (h : Yields (a.assemble r) w report w') :
    ∃ runs, Threaded a.ShowsSection w r.sections runs w' ∧
      report.sheets =
        (a.frontMatter report r.subject (a.rowsFrom 0 r.sections runs)).flatMap Document.sheets ++
          runs.flatMap List.flatten ++ (a.rear r.subject).sheets := by
  have ⟨_, runs, ha⟩ := assemble_yields h
  exact ⟨runs, ha.sections, ha.reportSheets⟩

theorem assemble_sheets_sample : ∃ report runs,
    Yields (sample.assemble sampleRequest) () report () ∧
      Threaded sample.ShowsSection () sampleRequest.sections runs () ∧
      report.sheets =
        (sample.frontMatter report sampleRequest.subject
          (sample.rowsFrom 0 sampleRequest.sections runs)).flatMap Document.sheets ++
          runs.flatMap List.flatten ++ (sample.rear sampleRequest.subject).sheets := by
  have ⟨report, h, _⟩ := Yields.exists_of_any (x := sample.assemble sampleRequest)
    (p := fun _ => true) (by decide +kernel)
  have ⟨runs, hr⟩ := assemble_sheets h
  exact ⟨report, runs, h, hr⟩

-- What is said about the number of pages holds just as far as both covers and the rear matter take
-- one page each.
theorem assemble_counts (h : Yields (a.assemble r) w report w') :
    let external := Document.externalCover a.options r.subject
    let internal := Document.internalCover a.options r.subject report.totalPages
    ∃ runs contents, Threaded a.ShowsSection w r.sections runs w' ∧
      contents = a.printedContents report (a.rowsFrom 0 r.sections runs) ∧
      report.sheets = external.sheets ++ internal.sheets ++ contents.sheets ++
        runs.flatMap List.flatten ++ (a.rear r.subject).sheets ∧
      (a.options.lines .body (totalPagesLine report.totalPages).toList).map WinAnsi.encode <:+
        internal.texts ∧
      (report.sheets.length = report.pageCount ↔ external.pageCount = 1 ∧ internal.pageCount = 1) ∧
      ((report.sheets.drop external.pageCount).length = report.totalPages ↔
        internal.pageCount = 1) ∧
      (report.contentPages = (runs.flatMap List.flatten).length ↔
        (a.rear r.subject).pageCount = 1) ∧
      report.contentsPages = contents.pageCount := by
  intro external internal
  have ⟨_, runs, ha⟩ := assemble_yields h
  have hexternal : 0 < external.pageCount := (Document.started_externalCover _ _).pos
  have hinternal : 0 < internal.pageCount := (Document.started_internalCover _ _ _).pos
  have hlength :
      report.sheets.length + 2 = report.pageCount + external.pageCount + internal.pageCount :=
    ha.length_sheets
  have hcontent := ha.contentPages_add_one
  refine ⟨runs, _, ha.sections, rfl, ?sheets, Document.totalPages_suffix .., ?pageCount, ?total,
    ?content, ha.contents⟩
  case sheets =>
    rw [ha.reportSheets]
    simp [frontMatter, external, internal]
  case pageCount => omega
  case total =>
    rw [Report.pageCount] at hlength
    rw [List.length_drop]
    omega
  case content => omega

theorem assemble_counts_sample : ∃ report runs contents,
    Yields (sample.assemble sampleRequest) () report () ∧
      Threaded sample.ShowsSection () sampleRequest.sections runs () ∧
      contents = sample.printedContents report (sample.rowsFrom 0 sampleRequest.sections runs) ∧
      report.sheets.length = report.pageCount ∧
      (report.sheets.drop 1).length = report.totalPages ∧
      report.contentPages = (runs.flatMap List.flatten).length ∧
      report.contentsPages = contents.pageCount := by
  have ⟨report, h, hone⟩ := Yields.exists_of_any (x := sample.assemble sampleRequest)
    (p := fun report =>
      (Document.internalCover sample.options sampleRequest.subject report.totalPages).pageCount = 1)
    (by decide +kernel)
  have hinternal := of_decide_eq_true hone
  have hexternal :
      (Document.externalCover sample.options sampleRequest.subject).pageCount = 1 := by
    decide +kernel
  have hrear : (sample.rear sampleRequest.subject).pageCount = 1 := by decide +kernel
  have ⟨runs, contents, hr, hc, _, _, hcount, htotal, hcontent, hcontents⟩ := assemble_counts h
  rw [hexternal] at htotal
  exact ⟨report, runs, contents, h, hr, hc, hcount.2 ⟨hexternal, hinternal⟩, htotal.2 hinternal,
    hcontent.2 hrear, hcontents⟩

end Assembler
end AccessReport
