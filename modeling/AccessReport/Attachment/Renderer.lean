import AccessReport.Registry
import AccessReport.Text.Blank
import AccessReport.Text.Case

/-!
The ways in which attachments are shown, and which content type is shown in which way.
-/

namespace AccessReport

inductive Renderer where
  -- a picture, centred on the page
  | image
  -- every page of a PDF
  | pdf
  -- a text document, converted to a PDF first
  | word
  -- a line that says that the type is not supported
  | placeholder
deriving DecidableEq, Repr

namespace Renderer

def all : List Renderer :=
  [image, pdf, word, placeholder]

def name : Renderer → String
  | image => "image"
  | pdf => "pdf"
  | word => "word"
  | placeholder => "default"

def ofName? (s : String) : Option Renderer :=
  all.find? (·.name = s)

-- The content types that are shown in this way unless something else is registered.
def contentTypes : Renderer → List String
  | image => ["image/png", "image/jpeg", "image/jpg", "image/gif", "image/bmp", "image/tiff"]
  | pdf => ["application/pdf"]
  | word => ["application/vnd.openxmlformats-officedocument.wordprocessingml.document",
      "application/msword"]
  | placeholder => []

end Renderer

-- Renderers under media types, in which case and parameters do not matter.
structure RendererRegistry where
  byType : Registry Renderer := .empty

namespace RendererRegistry

def mediaType (contentType : String) : String :=
  String.ofList (Case.lower (Text.trim (contentType.toList.takeWhile (· ≠ ';'))))

def empty : RendererRegistry :=
  {}

def register (r : RendererRegistry) (contentType : String) (renderer : Renderer) :
    RendererRegistry :=
  ⟨r.byType.register (mediaType contentType) renderer⟩

-- Every renderer under its own content types.
def standard : RendererRegistry :=
  Renderer.all.foldl
    (fun r renderer => renderer.contentTypes.foldl (fun r t => r.register t renderer) r) empty

def resolve (r : RendererRegistry) (contentType : String) : Renderer :=
  (r.byType.find? (mediaType contentType)).getD .placeholder

def supports (r : RendererRegistry) (contentType : String) : Bool :=
  r.byType.contains (mediaType contentType)

def contentTypes (r : RendererRegistry) : List String :=
  r.byType.keys

end RendererRegistry
end AccessReport
