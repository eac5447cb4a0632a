import AccessReport.Pdf.Syntax

/-!
Streams: data with a dictionary that describes it. Only whole objects of a file are streams.
-/

namespace AccessReport
namespace Pdf

variable {α : Type}

-- What a stream holds: bytes, or what is drawn on a page and written out later.
inductive Body (α : Type) where
  | bytes (bs : Bytes)
  | drawing (marks : List (Mark α))

structure Stream (α : Type) where
  entries      : Dictionary α
  body         : Body α
  compressible : Bool := true

inductive Indirect (α : Type) where
  | object (o : Object α)
  | stream (s : Stream α)

namespace Indirect

def object? : Indirect α → Option (Object α)
  | object o => some o
  | stream _ => none

def dictionary? (o : Indirect α) : Option (Dictionary α) :=
  o.object?.bind Object.dictionary?

def stream? : Indirect α → Option (Stream α)
  | stream s => some s
  | object _ => none

def entries? : Indirect α → Option (Dictionary α)
  | object o => o.dictionary?
  | stream s => some s.entries

def hasType (o : Indirect α) (type : String) : Bool :=
  o.entries?.any (Dictionary.hasType · type)

end Indirect

variable [Coordinate α]

def Body.content : Body α → Bytes
  | bytes bs => bs
  | drawing marks => marksBytes marks

namespace Stream

def content (s : Stream α) : Bytes :=
  s.body.content

-- A stream whose dictionary states its length.
def make (entries : Dictionary α) (body : Body α) (compressible : Bool := true) : Stream α :=
  ⟨entries.set "Length" (.count body.content.length), body, compressible⟩

def withContent (s : Stream α) (bs : Bytes) : Stream α :=
  make s.entries (.bytes bs) s.compressible

end Stream
end Pdf
end AccessReport
