import AccessReport.Attachment.Rendering
import AccessReport.Content.Listing
import AccessReport.Document.Merge
import AccessReport.Report.FrontMatter
import AccessReport.Report.Request
import AccessReport.Report.Template

/-!
Assembling a report. The sections are rendered first: only then is it known how many pages there
are, which the internal cover states, and where the sections start, which the contents say.
-/

namespace AccessReport

structure Assembler (m : Type → Type) (α : Type) where
  options   : Options α
  renderers : RendererRegistry := .standard
  templates : TemplateRegistry := {}
  -- without one no text document can be shown
  converter : Option (Converter m) := none

-- The sections of a report, and the rows of the contents that lead to them.
structure Body (α : Type) where
  document : Document α
  rows     : List ContentsRow := []

structure Report (α : Type) where
  document      : Document α
  -- pages of sections and attachments
  contentPages  : Nat
  contentsPages : Nat

namespace Report

variable {α : Type}

-- What the internal cover states: all pages but the external cover, which are the internal cover,
-- the contents, the sections and the rear page.
def total (contentPages contentsPages : Nat) : Nat :=
  contentPages + 1 + contentsPages + 1

def totalPages (r : Report α) : Nat :=
  total r.contentPages r.contentsPages

-- All pages, the external cover included.
def pageCount (r : Report α) : Nat :=
  r.totalPages + 1

def bytes [Coordinate α] (r : Report α) : Bytes :=
  r.document.bytes

end Report

namespace Assembler

variable {m : Type → Type} {α : Type} [Coordinate α]

def block (a : Assembler m α) (s : Section m) : Except Failure String :=
  let content := Content.normalize? s.content
  match a.templates.find? s.service with
  | some template => (template.render content).mapError (.template s.service)
  | none => .ok content.listing

def rendering (a : Assembler m α) : Rendering m α where
  pageSize := a.options.page
  imageProportion := a.options.imageProportion
  converter := a.converter

variable [Monad m]

def renderAttachment (a : Assembler m α) (service : String) (d : Document α)
    (attachment : Attachment m) : ExceptT Failure m (Document α) := do
  let info := attachment.info
  let within := Failure.attachment service info.number info.filename
  if !info.hasValidNumber then
    throw (within (.other "attachment numbers start at 1"))
  let d := d.startNewPage.writeHeading info.heading
  let bytes ← (ExceptT.mk attachment.read).adapt (within ∘ .io)
  let renderer := a.renderers.resolve info.contentType
  (ExceptT.mk (renderer.render a.rendering d info bytes)).adapt within

-- Renders a section behind those that are there, and notes on which page it starts: the one that
-- the last line of its heading is on.
def renderSection (a : Assembler m α) (b : Body α) (s : Section m) :
    ExceptT Failure m (Body α) := do
  let d := b.document.startNewPage.writeHeading s.label
  let row : ContentsRow := ⟨s.label, d.currentIndex⟩
  let block ← (a.block s : Except Failure String)
  let d ← s.attachments.foldlM (a.renderAttachment s.service) (d.writeBlock block)
  return ⟨d, b.rows ++ [row]⟩

def renderBody (a : Assembler m α) (sections : List (Section m)) :
    ExceptT Failure m (Body α) :=
  sections.foldlM a.renderSection ⟨.empty a.options, []⟩

omit [Monad m] in
-- Puts the parts of a report together, once the sections are rendered.
def finish (a : Assembler m α) (subject : SubjectDetails) (b : Body α) :
    Except Failure (Report α) :=
  let body := b.document.startNewPage.writeRearPage subject
  let contentPages := body.pageCount - 1
  let contentsPages := (Document.contents a.options none b.rows).pageCount
  let total := Report.total contentPages contentsPages
  -- pages are numbered from the internal cover
  let contents := Document.contents a.options (some (1 + contentsPages + 1)) b.rows
  if contents.pageCount ≠ contentsPages then
    .error (.render ("contents grew from " ++ natText contentsPages ++ " to " ++
      natText contents.pageCount ++ " pages once numbered"))
  else
    let parts := [
      .externalCover a.options subject,
      .internalCover a.options subject total,
      contents,
      body]
    .ok ⟨Document.join a.options parts, contentPages, contentsPages⟩

-- Assembles a report. The first failure ends it.
def assemble (a : Assembler m α) (r : Request m) : ExceptT Failure m (Report α) := do
  match a.options.validate with
  | .error fault => throw (.invalidOptions fault.message)
  | .ok () =>
    let body ← a.renderBody r.sections
    (a.finish r.subject body : Except Failure (Report α))

-- Assembles several reports; that one fails means nothing for the others.
def assembleAll (a : Assembler m α) (rs : List (Request m)) :
    m (List (Except Failure (Report α))) :=
  rs.mapM fun r => (a.assemble r).run

end Assembler
end AccessReport
