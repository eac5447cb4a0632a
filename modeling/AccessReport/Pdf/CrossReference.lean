import AccessReport.Pdf.Fault
import AccessReport.Pdf.Store

/-!
Where the objects of a file are.
-/

namespace AccessReport
namespace Pdf

variable {α : Type}

inductive Place where
  -- at a distance from the start of the file
  | direct (offset generation : Nat)
  -- inside an object stream
  | packed (container index : Nat)
deriving DecidableEq, Repr

abbrev PlaceTable := List (Nat × Place)

namespace PlaceTable

def insert (t : PlaceTable) (number : Nat) (place : Place) : PlaceTable :=
  (number, place) :: t.filter (·.1 ≠ number)

-- Adds the places of an earlier section; those that are known stay.
def merge (t earlier : PlaceTable) : PlaceTable :=
  t ++ earlier.filter fun (number, _) => (t.lookup number).isNone

def largest (t : PlaceTable) : Nat :=
  t.foldl (fun n (number, _) => max n number) 0

def sorted (t : PlaceTable) : PlaceTable :=
  t.mergeSort fun a b => a.1 ≤ b.1

-- The distance from the start of the file of an object with a generation.
def offset? (t : PlaceTable) (id : ObjectId) : Option Nat :=
  match t.lookup id.number with
  | some (.direct offset generation) => if generation = id.generation then some offset else none
  | _ => none

end PlaceTable

-- Numbers of objects are cut to thirty-two bits.
def objectNumber (i : Int) : Nat :=
  (i % Nat.pow 2 32).toNat

/-! ### Tables -/

-- The two bytes that end an entry.
def entryEnd? : Bytes → Option Bytes
  | a :: b :: bs =>
    if (a = byteOf ' ' && isLineEnd b) || (a = carriageReturn && b = lineFeed) then some bs else none
  | _ => none

-- An offset, a generation, and whether the object is in use.
def tableEntry? (bs : Bytes) : Option (Reading (Nat × Nat × Bool)) := do
  let (offset, bs) ← unsigned? (Nat.pow 2 32) bs
  let bs ← word? " " bs
  let (generation, bs) ← unsigned? (Nat.pow 2 32) bs
  let bs ← word? " " bs
  match bs with
  | [] => none
  | kind :: bs =>
    if kind = byteOf 'n' || kind = byteOf 'f' then
      (entryEnd? bs).map fun bs => ((offset, generation, kind = byteOf 'n'), bs)
    else none

def tableEntries : (fuel : Nat) → (number : Nat) → PlaceTable → Bytes → PlaceTable × Bytes
  | 0, _, t, bs => (t, bs)
  | fuel + 1, number, t, bs =>
    match tableEntry? bs with
    | none => (t, bs)
    | some ((offset, generation, used), rest) =>
      let t := if used && generation < Nat.pow 2 16 then
          t.insert (objectNumber number) (.direct offset generation)
        else t
      tableEntries fuel (number + 1) t rest

-- The number of the first entry of a section, and how many there should be.
def sectionStart? (bs : Bytes) : Option (Reading Nat) := do
  let (start, bs) ← unsigned? (Nat.pow 2 64) bs
  let bs ← word? " " bs
  let (_, bs) ← unsigned? (Nat.pow 2 64) bs
  let bs ← lineEnd? ((word? " " bs).getD bs)
  some (start, bs)

def tableSections : (fuel : Nat) → PlaceTable → Bytes → PlaceTable × Bytes
  | 0, t, bs => (t, bs)
  | fuel + 1, t, bs =>
    match sectionStart? bs with
    | none => (t, bs)
    | some (start, rest) =>
      let (t, rest) := tableEntries rest.length start t rest
      tableSections fuel t rest

-- A table of at least one section.
def table? (bs : Bytes) : Option (Reading PlaceTable) := do
  let bs ← word? "xref" bs
  let bs ← lineEnd? bs
  let _ ← sectionStart? bs
  let (t, rest) := tableSections bs.length [] bs
  some (t, skipSpace rest)

/-! ### Streams -/

-- The integers of an array that holds nothing else.
def integers? (o : Object α) : Option (List Int) :=
  o.array?.bind (·.mapM Object.integer?)

-- Takes a number of some bytes off, of which the last four count.
def takeNumber (width : Nat) (bs : Bytes) : Except Fault (Reading Nat) :=
  let digits := bs.take width
  if digits.length < width then .error (.io "failed to fill whole buffer")
  else .ok (Zlib.ofBigEndian digits % Nat.pow 2 32, bs.drop width)

-- The widths of the three fields of an entry.
structure Widths where
  kind   : Nat
  first  : Nat
  second : Nat

def Widths.ofList? : List Int → Option Widths
  | a :: b :: c :: _ =>
    if a < 0 || b < 0 || c < 0 then none else some ⟨a.toNat, b.toNat, c.toNat⟩
  | _ => none

-- Reads an entry; entries of a kind that is not known have no fields.
def streamEntry (w : Widths) (number : Int) (t : PlaceTable) (bs : Bytes) :
    Except Fault (Reading PlaceTable) := do
  let (kind, bs) ← if w.kind = 0 then .ok (1, bs) else takeNumber w.kind bs
  match kind with
  | 0 =>
    let (_, bs) ← takeNumber w.first bs
    let (_, bs) ← takeNumber w.second bs
    .ok (t, bs)
  | 1 =>
    let (offset, bs) ← takeNumber w.first bs
    let (generation, bs) ← takeNumber w.second bs
    .ok (t.insert (objectNumber number) (.direct offset (generation % Nat.pow 2 16)), bs)
  | 2 =>
    let (container, bs) ← takeNumber w.first bs
    let (index, bs) ← takeNumber w.second bs
    .ok (t.insert (objectNumber number) (.packed container (index % Nat.pow 2 16)), bs)
  | _ => .ok (t, bs)

def streamEntries (w : Widths) : (count : Nat) → (number : Int) → PlaceTable → Bytes →
    Except Fault (Reading PlaceTable)
  | 0, _, t, bs => .ok (t, bs)
  | count + 1, number, t, bs => do
    let (t, bs) ← streamEntry w number t bs
    streamEntries w count (number + 1) t bs

-- Reads sections that are given by a first number and a count each.
def streamSections (w : Widths) : List Int → PlaceTable → Bytes → Except Fault PlaceTable
  | start :: count :: sections, t, bs => do
    let (t, bs) ← streamEntries w count.toNat start t bs
    streamSections w sections t bs
  | _, t, _ => .ok t

-- The places that a stream lists, and its dictionary as the trailer.
def ofStream [Coordinate α] (s : Stream α) : Except Fault (PlaceTable × Dictionary α) := do
  let s ← if s.entries.contains "Filter" then
      match s.decompress? with
      | some s => .ok s
      | none => .error .unsupportedFilter
    else .ok s
  let size ← match (s.entries.get? "Size").bind Object.integer? with
    | some size => .ok size
    | none => .error .crossReference
  let sections := ((s.entries.get? "Index").bind integers?).getD [0, size]
  let widths ← match ((s.entries.get? "W").bind integers?).bind Widths.ofList? with
    | some widths => .ok widths
    | none => .error .crossReference
  let table ← streamSections widths sections [] s.content
  .ok (table, ((s.entries.erase "Length").erase "W").erase "Index")

end Pdf
end AccessReport
