import AccessReport.Document.Merge
import AccessReport.Pdf.Loader
import AccessReport.Pdf.PageBox
import AccessReport.Pdf.Version

/-!
Showing the pages of another PDF, one page each. What is drawn on a page becomes one object that is
scaled to fit and centred.
-/

namespace AccessReport

open Coordinate Pdf

namespace Document

variable {α : Type} [Coordinate α]

-- The line that announces embedded pages.
def announcement : Nat → String
  | 0 => "This attachment contains no pages."
  | 1 => "The following page is reproduced from this attachment."
  | n => "The following " ++ natText n ++ " pages are reproduced from this attachment."

-- What is drawn on a page as one object whose lower left corner lies at the origin.
def form (source : Store α) (page : ObjectId) (box : PageBox α) (resources : Option (Object α)) :
    Stream α :=
  let entries : Dictionary α := Dictionary.ofList [
    ("Type", .named "XObject"),
    ("Subtype", .named "Form"),
    ("FormType", .integer 1),
    ("BBox", .array (box.corners.map .real)),
    ("Matrix", .array [.integer 1, .integer 0, .integer 0, .integer 1, .real (-box.x₀),
      .real (-box.y₀)])]
  let entries := match resources with
    | some r => entries.set "Resources" r
    | none => entries
  Stream.make entries (.bytes (source.pageContent page))

-- The box of a page; one without a usable box counts as a letter page.
def boxOf (source : Store α) (page : ObjectId) : PageBox α :=
  (PageBox.ofPage? source page).getD (.ofDimensions .letter)

-- Copies the resources of a page, and answers its form.
def copyForm (source : Store α) (c : Copier α) (page : ObjectId) : Stream α × Copier α :=
  let box := boxOf source page
  match source.inherited? "Resources" Store.ancestorLimit page with
  | none => (form source page box none, c)
  | some r =>
    let c := c.copyAll source r.references
    (form source page box (some (r.renumber c.numbering.apply)), c)

-- Copies the resources of all pages, each object once.
def copyForms (source : Store α) : Copier α → List ObjectId → List (Stream α) × Copier α
  | c, [] => ([], c)
  | c, page :: pages =>
    let (f, c) := copyForm source c page
    let (fs, c) := copyForms source c pages
    (f :: fs, c)

-- Appends the pages of a loaded file behind a line that announces them.
def embedPages (d : Document α) (source : Store α) (pageSize : Dimensions α) : Nat × Document α :=
  let pages := source.pages
  let d := d.writeLine (announcement pages.length)
  let (forms, c) := copyForms source ⟨[], d.store⟩ pages
  let boxes := pages.map (boxOf source)
  let d := (forms.zip boxes).foldl (fun (d : Document α) (f, box) =>
    let (id, d) := d.addFigure f
    d.appendFigurePage id (Placement.fitCentered box.dimensions pageSize))
    { d with store := c.target }
  (pages.length, d)

-- Appends the pages of a PDF file, and says how many there are.
def embed (d : Document α) (data : Bytes) (pageSize : Dimensions α) :
    Except Failure (Nat × Document α) := do
  let _ ← version data
  match (load data : Except Fault (Store α)) with
  | .ok source => .ok (d.embedPages source pageSize)
  | .error fault => .error (.ofPdf fault)

end Document
end AccessReport
