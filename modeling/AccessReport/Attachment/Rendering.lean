import AccessReport.Attachment.Info
import AccessReport.Attachment.Renderer
import AccessReport.Document.Embed
import AccessReport.Picture.Decode

/-!
Showing the content of an attachment in a document.
-/

namespace AccessReport

open Coordinate Pdf Picture

-- Turns a text document with a file name into a PDF.
abbrev Converter (m : Type → Type) := (document : Bytes) → (filename : String) → m (Except Failure Bytes)

-- What a renderer needs besides the attachment.
structure Rendering (m : Type → Type) (α : Type) where
  pageSize        : Dimensions α
  imageProportion : α
  converter       : Option (Converter m) := none

namespace Document

variable {α : Type} [Coordinate α]

-- A plane of packed samples as an object that can be drawn.
def plane (width height : Nat) (colorSpace : String) (samples : Bytes) (mask : Option ObjectId) :
    Stream α :=
  let entries := Dictionary.ofList [
    ("Type", .named "XObject"),
    ("Subtype", .named "Image"),
    ("Width", .count width),
    ("Height", .count height),
    ("ColorSpace", .named colorSpace),
    ("BitsPerComponent", .integer 8),
    ("Filter", .named "FlateDecode")]
  let entries := match mask with
    | some id => Dictionary.set entries "SMask" (.reference id)
    | none => entries
  Stream.make entries (.bytes (Zlib.compress samples)) false

-- Adds a picture, behind its mask when it has one.
def addPicture (d : Document α) (p : Raster) : ObjectId × Document α :=
  let (mask, d) := match p.alpha with
    | some alpha =>
      let (id, d) := d.addFigure (plane p.width p.height "DeviceGray" alpha none)
      (some id, d)
    | none => (none, d)
  d.addFigure (plane p.width p.height "DeviceRGB" p.rgb mask)

-- Draws a picture on the open page, its pixels taken as points and scaled to the page.
def drawPicture (d : Document α) (p : Raster) (page : Dimensions α) (proportion : α) :
    Document α :=
  let (id, d) := d.addPicture p
  let natural : Dimensions α := ⟨ofInt p.width, ofInt p.height⟩
  d.drawFigure id (Placement.picture natural page proportion)
    (Placement.picturePosition natural page proportion).y

def unsupportedLine (contentType : String) : String :=
  "This attachment cannot be shown in this report. Content type '" ++ contentType ++
    "' is not supported."

end Document

namespace Renderer

variable {α : Type} [Coordinate α]

def drawImage (d : Document α) (bytes : Bytes) (page : Dimensions α) (proportion : α) :
    Except Failure (Document α) :=
  match decode bytes with
  | .error fault => .error (.ofPicture fault)
  | .ok p =>
    if p.width = 0 || p.height = 0 then .error (.imageDecode "image has no pixels")
    else .ok (d.drawPicture p page proportion)

def embedPdf (d : Document α) (bytes : Bytes) (page : Dimensions α) :
    Except Failure (Document α) :=
  (d.embed bytes page).map (·.2)

-- What is embedded for a converted document must be a PDF.
def embedConverted (d : Document α) (converted : Bytes) (page : Dimensions α) :
    Except Failure (Document α) :=
  if isPdf converted then embedPdf d converted page
  else .error (.conversion
    ("converter returned " ++ natText converted.length ++ " bytes that are not a PDF"))

def render {m : Type → Type} [Monad m] (r : Renderer) (ctx : Rendering m α) (d : Document α)
    (info : AttachmentInfo) (bytes : Bytes) : m (Except Failure (Document α)) :=
  match r with
  | .image => pure (drawImage d bytes ctx.pageSize ctx.imageProportion)
  | .pdf => pure (embedPdf d bytes ctx.pageSize)
  | .word =>
    match ctx.converter with
    | none => pure (.error (.conversion "no document converter configured"))
    | some convert => do
      match ← convert bytes info.filename with
      | .error failure => pure (.error failure)
      | .ok converted => pure (embedConverted d converted ctx.pageSize)
  | .placeholder => pure (.ok (d.writeLine (Document.unsupportedLine info.contentType)))

end Renderer
end AccessReport
