import AccessReport.Compression.Huffman
import AccessReport.Picture.Source

/-!
What is said about a picture before its blocks of eight by eight samples: its components, and the
tables that unpack and scale them.
-/

namespace AccessReport
namespace Picture
namespace Jpeg

-- The kinds of samples that a picture consists of. A component may have fewer samples than the
-- picture has pixels; `across` and `down` say how many blocks it has in each unit of coding.
structure Component where
  id     : Nat
  across : Nat
  down   : Nat
  -- the number of its table of factors
  table  : Nat
deriving Inhabited

structure Frame where
  progressive : Bool
  -- whether the tables are restricted to the first two
  baseline    : Bool
  width       : Nat
  height      : Nat
  components  : Array Component
deriving Inhabited

namespace Frame

def component (f : Frame) (i : Nat) : Component :=
  f.components.getD i default

def mostAcross (f : Frame) : Nat :=
  f.components.foldl (fun n c => max n c.across) 1

def mostDown (f : Frame) : Nat :=
  f.components.foldl (fun n c => max n c.down) 1

-- How many units of coding lie beside each other.
def unitsAcross (f : Frame) : Nat :=
  (f.width + 8 * f.mostAcross - 1) / (8 * f.mostAcross)

def unitsDown (f : Frame) : Nat :=
  (f.height + 8 * f.mostDown - 1) / (8 * f.mostDown)

def blocksAcross (f : Frame) (c : Component) : Nat :=
  f.unitsAcross * c.across

def blocksDown (f : Frame) (c : Component) : Nat :=
  f.unitsDown * c.down

def samplesAcross (f : Frame) (c : Component) : Nat :=
  (f.width * c.across + f.mostAcross - 1) / f.mostAcross

def samplesDown (f : Frame) (c : Component) : Nat :=
  (f.height * c.down + f.mostDown - 1) / f.mostDown

end Frame

-- How the samples of three components were coded, as far as a file says.
inductive ColorNote where
  | plain
  | brightness
deriving DecidableEq

structure Tables where
  -- factors in the order of rows
  factors  : Array (Option (Array Nat)) := Array.replicate 4 none
  -- codes for the means of blocks
  means    : Array (Option Huffman) := Array.replicate 4 none
  -- codes for all else
  details  : Array (Option Huffman) := Array.replicate 4 none
  restarts : Nat := 0
  -- whether the file says that it follows the usual form of exchange
  usual    : Bool := false
  note     : Option ColorNote := none

-- Where each coefficient of a block stands, in the order in which they come.
def zigzag : Array Nat := #[
  0, 1, 8, 16, 9, 2, 3, 10, 17, 24, 32, 25, 18, 11, 4, 5, 12, 19, 26, 33, 40, 48, 41, 34, 27, 20, 13,
  6, 7, 14, 21, 28, 35, 42, 49, 56, 57, 50, 43, 36, 29, 22, 15, 23, 30, 37, 44, 51, 58, 59, 52, 45,
  38, 31, 39, 46, 53, 60, 61, 54, 47, 55, 62, 63]

def malformed (detail : String) : Except Fault α :=
  .error (.malformed detail)

-- Takes the content of a segment, which begins with its length.
def takeSegment (bs : Bytes) : Except Fault (Taken Bytes) := do
  let (length, bs) ← takeNumber .highFirst 2 bs
  if length < 2 then malformed "a segment of no length"
  else take (length - 2) bs

/-! ### Frame -/

def readComponents : (count : Nat) → Array Component → Bytes → Except Fault (Array Component)
  | 0, done, _ => .ok done
  | count + 1, done, id :: sides :: table :: bs =>
    let c : Component := ⟨id.toNat, sides.toNat / 16, sides.toNat % 16, table.toNat⟩
    if done.any (·.id = c.id) then malformed "a component stands twice"
    else if c.across = 0 || 4 < c.across || c.down = 0 || 4 < c.down || 3 < c.table then
      malformed "a component out of range"
    else readComponents count (done.push c) bs
  | _ + 1, _, _ => malformed "a component is missing"

-- Whether samples of a component can be spread evenly over the pixels.
def Frame.isEven (f : Frame) : Bool :=
  f.components.all fun c => f.mostAcross % c.across = 0 && f.mostDown % c.down = 0

def readFrame (progressive baseline : Bool) (segment : Bytes) : Except Fault Frame :=
  match segment with
  | depth :: h₁ :: h₂ :: w₁ :: w₂ :: count :: bs => do
    let height := ByteOrder.highFirst.value [h₁, h₂]
    let width := ByteOrder.highFirst.value [w₁, w₂]
    if height = 0 then .error (.unsupported "height behind the picture")
    else if width = 0 then malformed "no pixels"
    else if count = 0 || bs.length ≠ 3 * count.toNat then malformed "frame of a wrong size"
    else
      let components ← readComponents count.toNat #[] bs
      let f : Frame := ⟨progressive, baseline, width, height, components⟩
      if depth ≠ 8 || (count ≠ 1 && count ≠ 3) || !f.isEven then
        .error (.unsupported "kind of samples")
      else .ok f
  | _ => malformed "frame of a wrong size"

/-! ### Tables -/

-- Factors that come in zigzag order, put in the order of rows.
def unzigzag (ns : List Nat) : Array Nat :=
  (ns.zip zigzag.toList).foldl (fun a (n, i) => a.setIfInBounds i n) (Array.replicate 64 0)

def readFactors (t : Tables) : (fuel : Nat) → Bytes → Except Fault Tables
  | 0, _ => .ok t
  | _ + 1, [] => .ok t
  | fuel + 1, b :: bs =>
    let width := b.toNat / 16 + 1
    let taken := bs.take (64 * width)
    if 2 < width || 3 < b % 16 || taken.length < 64 * width then malformed "factors of a wrong size"
    else
      let data := taken.toArray
      let ns := (List.range 64).map fun i =>
        ByteOrder.highFirst.value ((List.range width).map fun k => data.getD (width * i + k) 0)
      if ns.any (· = 0) then malformed "a factor of zero"
      else
        let t := { t with factors := t.factors.setIfInBounds (b % 16).toNat (some (unzigzag ns)) }
        readFactors t fuel (bs.drop (64 * width))

-- The words of a code by how many there are of each length, in order; a word that is too long for
-- its length makes it none.
def codeWords (counts : List Nat) (symbols : List Nat) : Option (List (Nat × Bits)) :=
  go 1 0 counts symbols
where
  go (length next : Nat) : List Nat → List Nat → Option (List (Nat × Bits))
    | [], _ => some []
    | count :: counts, symbols =>
      if Nat.pow 2 length < next + count then none
      else
        let here := (symbols.take count).zipIdx.map fun (s, i) =>
          (s, (Bits.ofNat length (next + i)).reverse)
        (go (length + 1) (2 * (next + count)) counts (symbols.drop count)).map (here ++ ·)

def readCodes (t : Tables) (baseline : Bool) : (fuel : Nat) → Bytes → Except Fault Tables
  | 0, _ => .ok t
  | _ + 1, [] => .ok t
  | fuel + 1, b :: bs =>
    let slot := (b % 16).toNat
    let counts := (bs.take 16).map (·.toNat)
    let size := counts.sum
    let bs := bs.drop 16
    if 1 < b / 16 || 3 < slot || (baseline && 1 < slot) then malformed "a code out of range"
    else if counts.length < 16 || size = 0 || 256 < size || bs.length < size then
      malformed "a code of a wrong size"
    else
      match codeWords counts ((bs.take size).map (·.toNat)) with
      | none => malformed "too many words in a code"
      | some words =>
        let code := some (words.foldl (fun h (s, w) => h.insert s w) .unused)
        let t := if b / 16 = 0 then { t with means := t.means.setIfInBounds slot code }
          else { t with details := t.details.setIfInBounds slot code }
        readCodes t baseline fuel (bs.drop size)

-- Notes on how the file is written.
def readNote (t : Tables) (marker : UInt8) (segment : Bytes) : Except Fault Tables :=
  if marker = 0xE0 && (Bytes.after? (Bytes.ofText "JFIF\x00") segment).isSome then
    .ok { t with usual := true }
  else if marker = 0xEE && 12 ≤ segment.length &&
      (Bytes.after? (Bytes.ofText "Adobe\x00") segment).isSome then
    match segment.getD 11 0 with
    | 0 => .ok { t with note := some .plain }
    | 1 | 2 => .ok { t with note := some .brightness }
    | _ => malformed "an unknown note on colors"
  else .ok t

end Jpeg
end Picture
end AccessReport
