import AccessReport.Document.Layout
import AccessReport.Pdf.Saver
import AccessReport.Pdf.Copier
import AccessReport.Text.WinAnsi

/-!
Documents under construction. Pages are appended in order; what is written flows onto a new page
when the open one is full.
-/

namespace AccessReport

open Coordinate Pdf

structure OpenPage (α : Type) where
  marks   : List (Mark α) := []
  -- the objects that are drawn, under their names
  figures : Dictionary α := []
  -- the next line hangs below this height
  cursor  : α

structure Document (α : Type) where
  layout      : Options α
  store       : Store α
  -- the finished pages
  pageIds     : List ObjectId := []
  current     : Option (OpenPage α) := none
  -- how many names for figures were given out
  figureCount : Nat := 0

namespace Document

variable {α : Type}

def treeId : ObjectId := ⟨1, 0⟩
def regularFontId : ObjectId := ⟨2, 0⟩
def boldFontId : ObjectId := ⟨3, 0⟩
def catalogId : ObjectId := ⟨4, 0⟩

def font (base : String) : Object α :=
  .dictionary (Dictionary.ofList [
    ("Type", .named "Font"),
    ("Subtype", .named "Type1"),
    ("BaseFont", .named base),
    ("Encoding", .named "WinAnsiEncoding")])

def tree (pages : List ObjectId) : Object α :=
  .dictionary (Dictionary.ofList [
    ("Type", .named "Pages"),
    ("Count", .count pages.length),
    ("Kids", .array (pages.map .reference))])

def catalog : Object α :=
  .dictionary (Dictionary.ofList [("Type", .named "Catalog"), ("Pages", .reference treeId)])

def empty (layout : Options α) : Document α where
  layout := layout
  store := {
    objects := [
      (catalogId, .object catalog),
      (boldFontId, .object (font "Helvetica-Bold")),
      (regularFontId, .object (font "Helvetica")),
      (treeId, .object (tree []))]
    maxId := 4
    trailer := Dictionary.ofList [("Root", .reference catalogId)] }

-- The number of pages, the open one included.
def pageCount (d : Document α) : Nat :=
  d.pageIds.length + (if d.current.isSome then 1 else 0)

-- The position of the page that text is written to, counted from zero.
def currentIndex (d : Document α) : Nat :=
  d.pageIds.length

variable [Coordinate α]

def OpenPage.blank (layout : Options α) : OpenPage α where
  cursor := layout.top

def resources (figures : Dictionary α) : Object α :=
  let fonts := Object.dictionary (Dictionary.ofList [
    (Options.regularFont, .reference regularFontId),
    (Options.boldFont, .reference boldFontId)])
  .dictionary (Dictionary.ofList (("Font", fonts) ::
    (if figures.isEmpty then [] else [("XObject", .dictionary figures)])))

def pageObject (page : Dimensions α) (content : ObjectId) (figures : Dictionary α) : Object α :=
  .dictionary (Dictionary.ofList [
    ("Type", .named "Page"),
    ("Parent", .reference treeId),
    ("MediaBox", .array [.integer 0, .integer 0, .real page.width, .real page.height]),
    ("Contents", .reference content),
    ("Resources", resources figures)])

-- Closes the open page and appends it to the finished ones.
def closePage (d : Document α) : Document α :=
  match d.current with
  | none => d
  | some page =>
    let (content, store) := d.store.add (.stream (Stream.make [] (.drawing page.marks)))
    let (id, store) := store.add (.object (pageObject d.layout.page content page.figures))
    { d with store := store, pageIds := d.pageIds ++ [id], current := none }

-- Closes the open page and opens another one, unless nothing is on the open one yet.
def startNewPage (d : Document α) : Document α :=
  if d.current.any (·.marks.isEmpty) then d
  else { d.closePage with current := some (OpenPage.blank d.layout) }

-- The open page, or the one that would be opened.
def page (d : Document α) : OpenPage α :=
  d.current.getD (OpenPage.blank d.layout)

-- Whether a line of a style must go onto the next page.
def isFull (d : Document α) (style : Style) : Bool :=
  d.current.any fun page =>
    !page.marks.isEmpty && page.cursor - d.layout.lineHeight style < d.layout.margin

def mark (d : Document α) (m : Mark α) : Document α :=
  { d with current := some { d.page with marks := d.page.marks ++ [m] } }

def textMark (d : Document α) (style : Style) (x y : α) (line : List Char) : Mark α :=
  .text (Options.fontOf style) (d.layout.size style) x y (WinAnsi.encode line)

-- Puts one line below what is on the page, and answers its baseline.
def placeLine (d : Document α) (style : Style) (x : α) (line : List Char) : Document α × α :=
  let d := if d.isFull style then d.closePage else d
  let baseline := d.page.cursor - d.layout.size style
  let cursor := d.page.cursor - d.layout.lineHeight style
  let d := d.mark (d.textMark style x baseline line)
  ({ d with current := some { d.page with cursor := cursor } }, baseline)

def writeStyled (d : Document α) (style : Style) (text : String) : Document α :=
  (d.layout.lines style text.toList).foldl
    (fun d line => (d.placeLine style d.layout.margin line).1) d

def writeLine (d : Document α) (text : String) : Document α :=
  d.writeStyled .body text

def writeHeading (d : Document α) (text : String) : Document α :=
  d.writeStyled .heading text

def writeTitle (d : Document α) (text : String) : Document α :=
  d.writeStyled .title text

def writeBlock (d : Document α) (block : String) : Document α :=
  (Text.lines block.toList).foldl (fun d line => d.writeLine (String.ofList line)) d

def writeCentered (d : Document α) (style : Style) (text : String) : Document α :=
  (d.layout.lines style text.toList).foldl
    (fun d line => (d.placeLine style (d.layout.centered style line) line).1) d

-- Writes a text at the left margin and another one at the right margin beside its first line.
def writeRow (d : Document α) (style : Style) (left right : String) : Document α :=
  match d.layout.rowLines style left.toList right.toList with
  | [] => d
  | first :: lines =>
    let (d, y) := d.placeLine style d.layout.margin first
    let x := d.layout.rightColumn style right.toList
    let d := if right.isEmpty then d else d.mark (d.textMark style x y right.toList)
    lines.foldl (fun d line => (d.placeLine style d.layout.margin line).1) d

-- Leaves a number of body lines empty, at most up to the margin.
def addSpace (d : Document α) (lines : α) : Document α :=
  let step := d.layout.lineHeight .body * lines
  let cursor := larger (d.page.cursor - step) d.layout.margin
  { d with current := some { d.page with cursor := cursor } }

def addFigure (d : Document α) (figure : Stream α) : ObjectId × Document α :=
  let (id, store) := d.store.add (.stream figure)
  (id, { d with store := store })

def figureName (n : Nat) : String :=
  "X" ++ natText n

-- Draws an object on the open page; later text goes below `bottom`.
def drawFigure (d : Document α) (id : ObjectId) (matrix : Matrix α) (bottom : α) : Document α :=
  let name := figureName (d.figureCount + 1)
  let page := d.page
  let cursor := smaller page.cursor (bottom - d.layout.lineHeight .body)
  { d with
    figureCount := d.figureCount + 1
    current := some {
      marks := page.marks ++ [.figure name matrix]
      figures := page.figures.set name (.reference id)
      cursor := cursor } }

-- Appends a finished page with nothing on it but one object.
def appendFigurePage (d : Document α) (id : ObjectId) (matrix : Matrix α) : Document α :=
  let d := d.closePage
  let name := figureName (d.figureCount + 1)
  let page : OpenPage α := { OpenPage.blank d.layout with
    marks := [.figure name matrix]
    figures := Dictionary.set [] name (.reference id) }
  { d with figureCount := d.figureCount + 1, current := some page }.closePage

end Document
end AccessReport
