import AccessReport.Pdf.CrossReference

/-!
Writing a file: a header, the objects in the order of their numbers, and a stream that says where
they are.
-/

namespace AccessReport
namespace Pdf

variable {α : Type} [Coordinate α]

def fileHeader : Bytes :=
  Bytes.ofText "%PDF-1.7\n%" ++ [0xBB, 0xAD, 0xC0, 0xDE, lineFeed]

namespace Indirect

-- Objects that only say how a file is built are written anew with every file.
def isStructural (o : Indirect α) : Bool :=
  o.hasType "ObjStm" || o.hasType "XRef" || o.hasType "Linearized"

def bytes : Indirect α → Bytes
  | object o => o.gap ++ o.bytes ++ (if o.endsBare then [byteOf ' '] else [])
  | stream s =>
    (Object.dictionary s.entries).bytes ++ Bytes.ofText "stream\n" ++ s.content ++
      Bytes.ofText "\nendstream "

-- The object with its number around it.
def numberedBytes (id : ObjectId) (o : Indirect α) : Bytes :=
  id.bytes ++ Bytes.ofText " obj\n" ++ o.bytes ++ Bytes.ofText "\nendobj\n"

end Indirect

-- The objects one after the other behind `offset` bytes, and where each of them starts.
def placed : (offset : Nat) → List (ObjectId × Indirect α) → Bytes × List (ObjectId × Nat)
  | _, [] => ([], [])
  | offset, (id, o) :: os =>
    let bytes := o.numberedBytes id
    let (rest, places) := placed (offset + bytes.length) os
    (bytes ++ rest, (id, offset) :: places)

-- Stretches of consecutive numbers: where each starts, and how long it is.
def runs : List Nat → List (Nat × Nat)
  | [] => []
  | n :: ns =>
    match runs ns with
    | (m, count) :: rest => if n + 1 = m then (n, count + 1) :: rest else (n, 1) :: (m, count) :: rest
    | [] => [(n, 1)]

-- One entry: its kind, an offset and a generation.
def entryBytes (id : ObjectId) (offset : Nat) : Bytes :=
  1 :: (Zlib.bigEndian 4 offset ++ Zlib.bigEndian 2 id.generation)

-- The stream that lists where the objects are, itself included.
def crossReference (s : Store α) (places : List (ObjectId × Nat)) : Stream α :=
  let count (n : Nat) : Object α := .count n
  let index := (runs (places.map (·.1.number))).flatMap fun (start, n) => [count start, count n]
  let entries := s.trailer.set "Type" (.named "XRef")
  let entries := entries.set "Size" (count (s.maxId + 2))
  let entries := entries.set "W" (.array [count 1, count 4, count 2])
  let entries := entries.set "Index" (.array index)
  Stream.make entries (.bytes (places.flatMap fun (id, offset) => entryBytes id offset))

def Store.save (s : Store α) : Bytes :=
  let objects := s.sorted.filter fun (_, o) => !o.isStructural
  let (body, places) := placed fileHeader.length objects
  let start := fileHeader.length + body.length
  let listing := crossReference s (places ++ [(s.nextId, start)])
  fileHeader ++ body ++ (Indirect.stream listing).numberedBytes s.nextId ++
    Bytes.ofText "\nstartxref\n" ++ natBytes start ++ Bytes.ofText "\n%%EOF"

-- The file with every stream packed that gets shorter by it.
def Store.compress (s : Store α) : Store α :=
  { s with objects := s.objects.map fun (id, o) =>
      match o with
      | .stream stream => (id, .stream stream.compress)
      | o => (id, o) }

end Pdf
end AccessReport
