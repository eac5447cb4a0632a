import AccessReport.Pdf.CrossReference
import AccessReport.Text.Blank
import AccessReport.Text.Utf8

/-!
Reading a file: its header, the places of its objects from the newest section to the oldest, and the
objects themselves. Objects that cannot be read are left out.
-/

namespace AccessReport
namespace Pdf

variable {α : Type} [Coordinate α]

-- An object of a file; a stream of unknown length starts at a place of its own.
structure Loaded (α : Type) where
  id    : ObjectId
  value : Indirect α
  start : Option Nat := none

-- What comes where an object may be a stream.
inductive StreamReading (α : Type) where
  | none
  -- a stream that cannot be
  | broken
  | whole (s : Stream α)
  -- the length is not known yet
  | openEnded (entries : Dictionary α) (rest : Bytes)

-- Reads a stream; `lengthOf` finds a length that is given by a reference.
def streamReading (lengthOf : ObjectId → Option Int) (bs : Bytes) : StreamReading α :=
  let head : Option (Reading (Dictionary α)) := do
    let (d, rest) ← dictionary? bs
    let rest ← word? "stream" (skipSpace rest)
    let rest ← lineEnd? rest
    some (d, rest)
  match head with
  | .none => .none
  | some (d, rest) =>
    let length := match d.get? "Length" with
      | some (.reference id) => lengthOf id
      | some (.integer i) => some i
      | _ => Option.none
    match length with
    | .none => .openEnded d rest
    | some length =>
      if length < 0 then .broken
      else
        let data := rest.take length.toNat
        let behind := rest.drop length.toNat
        if data.length < length.toNat then .none
        else match word? "endstream" ((lineEnd? behind).getD behind) with
          | some _ => .whole (Stream.make d (.bytes data))
          | .none => .none

-- Reads the object at the front of `bytes`, which are the end of `file`; `seen` holds the objects
-- that wait for it to learn their length.
def loadAt (file : Bytes) (table : PlaceTable) : (fuel : Nat) → (seen : List ObjectId) →
    (bytes : Bytes) → Option (Loaded α)
  | 0, _, _ => none
  | fuel + 1, seen, bytes => do
    let (id, rest) ← objectId? (skipSpace bytes)
    let rest ← word? "obj" rest
    let rest := skipSpace rest
    let lengthOf (target : ObjectId) : Option Int :=
      if target ∈ seen then none
      else match table.offset? target with
        | none => none
        | some offset =>
          if file.length < offset then none
          else match loadAt file table fuel (target :: seen) (file.drop offset) with
            | some loaded =>
              if loaded.id = target then loaded.value.object?.bind Object.integer? else none
            | none => none
    match streamReading lengthOf rest with
    | .broken => none
    | .whole s => some ⟨id, .stream s, none⟩
    | .openEnded d behind => some ⟨id, .stream ⟨d, .bytes [], true⟩, some (file.length - behind.length)⟩
    | .none =>
      let (o, _) ← object? rest
      some ⟨id, .object o, none⟩

/-! ### Sections -/

-- The bytes from the last occurrence of a word on.
def lastOccurrence? (w : Bytes) : Bytes → Option Bytes
  | [] => none
  | b :: bs =>
    match lastOccurrence? w bs with
    | some found => some found
    | none => if (Bytes.after? w (b :: bs)).isSome then some (b :: bs) else none

-- The end mark is looked for in so many bytes at the end of a file.
def endWindow : Nat :=
  512

-- The start mark lies at most this far before the end mark.
def startWindow : Nat :=
  25

-- Where the newest section starts, as the end of the file says.
def startOffset? (file : Bytes) : Option Nat := do
  let fromEnd ← lastOccurrence? (Bytes.ofText "%%EOF") (file.drop (file.length - endWindow))
  let position := file.length - fromEnd.length
  if position ≤ startWindow then none
  else
    let fromStart ← lastOccurrence? (Bytes.ofText "startxref") (file.drop (position - startWindow))
    let rest ← word? "startxref" fromStart
    let rest ← lineEnd? rest
    let (offset, rest) ← integer? rest
    let rest ← lineEnd? rest
    let _ ← word? "%%EOF" rest
    if 0 ≤ offset && offset ≤ file.length then some offset.toNat else none

-- The places that a section lists, and its trailer.
def sectionAt (file : Bytes) (offset : Nat) : Except Fault (PlaceTable × Dictionary α) :=
  let bytes := file.drop offset
  let table : Option (PlaceTable × Dictionary α) := do
    let (t, rest) ← table? bytes
    let rest ← word? "trailer" rest
    let (d, _) ← dictionary? (skipSpace rest)
    some (t, d)
  match table with
  | some (t, d) =>
    if ((d.get? "Size").bind Object.integer?).isSome then .ok (t, d) else .error .trailer
  | none =>
    match (loadAt file [] 1 [] bytes : Option (Loaded α)) with
    | some ⟨_, .stream s, _⟩ => ofStream s
    | _ => .error .crossReference

-- An offset that a trailer gives, when the file reaches as far.
def offsetIn (file : Bytes) (offset : Int) : Except Fault Nat :=
  if 0 ≤ offset && offset ≤ file.length then .ok offset.toNat else .error .previousSection

-- Adds the places of earlier sections; `seen` holds the offsets that were followed.
def earlierSections (file : Bytes) : (fuel : Nat) → (seen : List Int) → (previous : Option Int) →
    (hybrid : Option Int) → PlaceTable → Except Fault PlaceTable
  | 0, _, _, _, t => .ok t
  | _ + 1, _, none, _, t => .ok t
  | fuel + 1, seen, some previous, hybrid, t =>
    if previous ∈ seen then .ok t
    else do
      let offset ← offsetIn file previous
      let (earlier, trailer) ← (sectionAt file offset : Except Fault (PlaceTable × Dictionary α))
      let t := t.merge earlier
      -- the newest trailer may name a stream beside its table
      let t ← match hybrid with
        | none => .ok t
        | some hybrid => do
          let offset ← offsetIn file hybrid
          let (beside, _) ← (sectionAt file offset : Except Fault (PlaceTable × Dictionary α))
          .ok (t.merge beside)
      let next := (trailer.get? "Prev").bind Object.integer?
      earlierSections file fuel (previous :: seen) next none t

/-! ### Objects -/

-- The numbers and offsets that an object stream begins with; what is no number counts as none.
def packedIndex (cs : List Char) : List (Option Nat) :=
  (Text.words cs).map fun w =>
    let digits := match w with
      | '+' :: ds => ds
      | ds => ds
    if !digits.isEmpty && digits.all Decimal.isDigit && Decimal.ofDigits digits < Nat.pow 2 32 then
      some (Decimal.ofDigits digits)
    else none

-- The objects at the offsets of an index.
def packedObjects (data : Bytes) (first : Nat) : List (Option Nat) →
    List (ObjectId × Indirect α)
  | some number :: some offset :: index =>
    let rest := packedObjects data first index
    if data.length ≤ first + offset then rest
    else match (object? (data.drop (first + offset)) : Option (Reading (Object α))) with
      | some (o, _) => (⟨number, 0⟩, .object o) :: rest
      | none => rest
  | _ :: _ :: index => packedObjects data first index
  | _ => []

-- The objects inside an object stream.
def unpack? (s : Stream α) : Option (List (ObjectId × Indirect α)) :=
  if s.content.isEmpty then some []
  else do
    let first ← (s.entries.get? "First").bind Object.integer?
    let _ ← (s.entries.get? "N").bind Object.integer?
    if first < 0 || s.content.length < first.toNat then none
    else
      let index ← Utf8.decode? (s.content.take first.toNat)
      some (packedObjects s.content first.toNat (packedIndex index))

-- The objects that were read so far: by their own place, and out of object streams.
structure Harvest (α : Type) where
  store   : Store α
  packed  : List (ObjectId × Indirect α) := []
  -- streams of unknown length and where they start
  unended : List (ObjectId × Nat) := []

def Harvest.add (h : Harvest α) (loaded : Loaded α) : Harvest α :=
  match loaded.value with
  | .stream s =>
    if s.entries.hasType "ObjStm" then
      let s := s.decompress?.getD s
      match unpack? s with
      | none => h
      | some objects =>
        -- of objects with one number the last one in a stream counts
        { h with
          store := h.store.insert loaded.id (.stream s)
          packed := h.packed ++ objects.reverse }
    else
      let unended := match loaded.start with
        | some start => (loaded.id, start) :: h.unended
        | none => h.unended
      { h with store := h.store.insert loaded.id loaded.value, unended := unended }
  | value => { h with store := h.store.insert loaded.id value }

-- The data of a stream whose length became known.
def endStream (file : Bytes) (s : Store α) (id : ObjectId) (start : Nat) : Store α :=
  match s.at? id with
  | some (.stream stream) =>
    let length : Option Int := do
      let value ← stream.entries.get? "Length"
      let o ← s.follow Store.referenceLimit (.object value)
      o.object?.bind Object.integer?
    match length with
    | some length =>
      if 0 ≤ length && start + length.toNat ≤ file.length then
        s.insert id (.stream (stream.withContent ((file.drop start).take length.toNat)))
      else s
    | none => s
  | _ => s

-- The header names a version in valid text and ends with its line.
def hasHeader (file : Bytes) : Bool :=
  match word? "%PDF-" file with
  | none => false
  | some rest =>
    (lineEnd? (rest.dropWhile (!isLineEnd ·))).isSome &&
      (Utf8.decode? (rest.takeWhile (!isLineEnd ·))).isSome

def largestNumber : Nat :=
  Nat.pow 2 32 - 1

-- Reads the objects that a table lists.
def harvest (file : Bytes) (table : PlaceTable) (trailer : Dictionary α) : Store α :=
  let start : Harvest α := ⟨⟨[], table.largest, trailer⟩, [], []⟩
  let h := table.sorted.foldl (fun h (_, place) =>
    match place with
    | .packed .. => h
    | .direct offset _ =>
      if file.length < offset then h
      else match (loadAt file table (table.length + 1) [] (file.drop offset) :
          Option (Loaded α)) with
        | some loaded => h.add loaded
        | none => h) start
  -- objects with a place of their own are newer than packed ones
  let store := h.packed.foldl (fun s (id, o) =>
    if (s.at? id).isSome then s else s.insert id o) h.store
  h.unended.foldl (fun s (id, start) => endStream file s id start) store

def load (data : Bytes) : Except Fault (Store α) := do
  let file := (Bytes.find? (Bytes.ofText "%PDF-") data).getD data
  if !hasHeader file then .error .header
  else
    match startOffset? file with
    | none => .error .startMark
    | some offset =>
      let (table, trailer) ← (sectionAt file offset : Except Fault (PlaceTable × Dictionary α))
      let previous := (trailer.get? "Prev").bind Object.integer?
      let hybrid := (trailer.get? "XRefStm").bind Object.integer?
      let table ← earlierSections (α := α) file (file.length + 2) [] previous hybrid table
      if largestNumber ≤ table.largest then .error .crossReference
      else
        let trailer := trailer.erase "Prev"
        .ok (harvest file table trailer)

end Pdf
end AccessReport
