import AccessReport.Picture.Jpeg.Color

/-!
Pictures as sums of waves in blocks of eight by eight samples, in one scan or in several that add
detail.
-/

namespace AccessReport
namespace Picture
namespace Jpeg

def signature : Bytes :=
  [0xFF, 0xD8, 0xFF]

structure Draft where
  tables : Tables := {}
  frame  : Option Frame := none
  -- the blocks of each component, row by row
  blocks : Array (Array Block) := #[]
  -- the factors of each component since its first scan
  scales : Array (Option (Array Nat)) := #[]

-- The next marker, which may be filled up in front, and what follows it.
def nextMarker (bs : Bytes) : Except Fault (Taken UInt8) :=
  match bs with
  | 0xFF :: b :: bs =>
    if b = 0xFF then nextMarker (0xFF :: bs)
    else if b = 0 then nextMarker bs
    else .ok (b, bs)
  | _ :: bs => nextMarker bs
  | [] => .error .ended
termination_by bs.length

-- The packed bytes up to a marker, last one first, and the marker with what follows it.
def untilMarker (done : Bytes) (bs : Bytes) : Except Fault (Taken Bytes) :=
  match bs with
  | 0xFF :: 0 :: bs => untilMarker (0xFF :: done) bs
  | 0xFF :: 0xFF :: bs => untilMarker done (0xFF :: bs)
  | 0xFF :: b :: bs => .ok (done, 0xFF :: b :: bs)
  | [0xFF] => .error .ended
  | b :: bs => untilMarker (b :: done) bs
  | [] => .error .ended
termination_by bs.length

def packedBits (bs : Bytes) : Except Fault (Taken Bits) := do
  let (packed, rest) ← untilMarker [] bs
  .ok (Bits.ofBytesHighFirst packed.reverse, rest)

/-! ### Scans -/

structure Scan where
  -- the components, by their places in the frame
  parts : Array Nat
  codes : Array Codes
  band  : Band

def takeParts (p : Draft) (f : Frame) : (count : Nat) → Scan → Bytes →
    Except Fault (Taken Scan)
  | 0, s, bs => .ok (s, bs)
  | count + 1, s, id :: slots :: bs =>
    let mean := slots.toNat / 16
    let detail := slots.toNat % 16
    match f.components.findIdx? (·.id = id.toNat) with
    | none => malformed "an unknown component in a scan"
    | some i =>
      if s.parts.contains i then malformed "a component stands twice in a scan"
      else if 3 < mean || 3 < detail || (f.baseline && (1 < mean || 1 < detail)) then
        malformed "a code out of range"
      else
        let codes : Codes := ⟨(p.tables.means.getD mean none), (p.tables.details.getD detail none)⟩
        takeParts p f count { s with parts := s.parts.push i, codes := s.codes.push codes } bs
  | _ + 1, _, _ => malformed "a scan of a wrong size"

-- What of its blocks a scan may give.
def bandOf (f : Frame) (parts first last high low : Nat) : Except Fault Band :=
  if f.progressive then
    if 63 < last || last < first || (first = 0 && last ≠ 0) || (first ≠ 0 && parts ≠ 1) ||
        13 < high || 13 < low || (high ≠ 0 && high ≠ low + 1) then
      malformed "a scan out of range"
    else .ok ⟨first, last + 1, high ≠ 0, low⟩
  else if first ≠ 0 || (last ≠ 63 && last ≠ 0) || high ≠ 0 || low ≠ 0 then
    malformed "a scan out of range"
  else .ok ⟨0, 64, false, 0⟩

def readScan (p : Draft) (f : Frame) (segment : Bytes) : Except Fault Scan := do
  match segment with
  | [] => malformed "a scan of a wrong size"
  | count :: bs =>
    if count = 0 || 4 < count || bs.length ≠ 2 * count.toNat + 3 then
      malformed "a scan of a wrong size"
    else
      let (s, bs) ← takeParts p f count.toNat ⟨#[], #[], ⟨0, 64, false, 0⟩⟩ bs
      match bs with
      | first :: last :: bits :: _ =>
        let band ← bandOf f count.toNat first.toNat last.toNat (bits.toNat / 16) (bits.toNat % 16)
        let size := s.parts.foldl (fun n i =>
          let c := f.component i
          n + c.across * c.down) 0
        let lacks (get : Codes → Option Huffman) := s.codes.any fun c => (get c).isNone
        if 1 < s.parts.size && 10 < size then malformed "too many blocks in a unit"
        else if s.parts.any fun i =>
            (p.tables.factors.getD (f.component i).table none).isNone then
          malformed "factors are missing"
        else if (band.first = 0 && lacks (·.mean)) || (1 < band.stop && lacks (·.detail)) then
          malformed "a code is missing"
        else .ok { s with band := band }
      | _ => malformed "a scan of a wrong size"

-- The blocks of the units of a scan, each as the place of its component in the scan and the number
-- of the block. A scan of one component has units of one block.
def units (f : Frame) (s : Scan) : List (List (Nat × Nat)) :=
  if s.parts.size = 1 then
    let c := f.component (s.parts.getD 0 0)
    let across := f.blocksAcross c
    (List.range (min (f.blocksDown c) ((f.height + 7) / 8))).flatMap fun y =>
      (List.range (min across ((f.width + 7) / 8))).map fun x => [(0, y * across + x)]
  else
    (List.range f.unitsDown).flatMap fun y => (List.range f.unitsAcross).map fun x =>
      s.parts.toList.zipIdx.flatMap fun (i, k) =>
        let c := f.component i
        (List.range c.down).flatMap fun v => (List.range c.across).map fun h =>
          (k, (y * c.down + v) * f.blocksAcross c + x * c.across + h)

-- A scan under way: the blocks, what carries over, and what is behind the packed bytes.
structure Progress where
  blocks   : Array (Array Block)
  carry    : Carry
  -- units until the next restart, and its number
  left     : Nat
  restart  : Nat
  rest     : Bytes

def takeUnit (s : Scan) (g : Progress) : List (Nat × Nat) → Except Fault Progress
  | [] => .ok g
  | (k, n) :: more => do
    let i := s.parts.getD k 0
    let component := g.blocks.getD i #[]
    let block := component.getD n .zero
    let codes := s.codes.getD k ⟨none, none⟩
    let (block, carry) ← if s.band.refining then refineBlock s.band codes g.carry block
      else takeBlock s.band codes k g.carry block
    let blocks := g.blocks.modify i fun a => a.setIfInBounds n block
    takeUnit s { g with blocks := blocks, carry := carry } more

def freshCarry (s : Scan) (bits : Bits) : Carry :=
  ⟨Array.replicate s.parts.size 0, 0, bits⟩

-- Starts anew behind a marker, which must have the number whose turn it is.
def restart (s : Scan) (interval : Nat) (g : Progress) : Except Fault Progress := do
  match g.rest with
  | 0xFF :: b :: bs =>
    if b.toNat = 0xD0 + g.restart then
      let (bits, rest) ← packedBits bs
      .ok { g with
        carry := freshCarry s bits
        left := interval
        restart := (g.restart + 1) % 8
        rest := rest }
    else malformed "no restart where one should be"
  | _ => malformed "no restart where one should be"

def takeUnits (s : Scan) (interval : Nat) : Progress → List (List (Nat × Nat)) →
    Except Fault Progress
  | g, [] => .ok g
  | g, unit :: units => do
    let g ← if interval ≠ 0 && g.left = 0 then restart s interval g else .ok g
    let g ← takeUnit s g unit
    takeUnits s interval { g with left := g.left - 1 } units

-- Reads a scan, and answers what is behind it, from a marker on.
def scan (p : Draft) (f : Frame) (segment bs : Bytes) : Except Fault (Taken Draft) := do
  let s ← readScan p f segment
  let scales := s.parts.foldl (fun (a : Array (Option (Array Nat))) i =>
    a.setIfInBounds i (p.tables.factors.getD (f.component i).table none)) p.scales
  let (bits, rest) ← packedBits bs
  let interval := p.tables.restarts
  let g ← takeUnits s interval ⟨p.blocks, freshCarry s bits, interval, 0, rest⟩ (units f s)
  .ok ({ p with blocks := g.blocks, scales := scales }, g.rest)

/-! ### The whole picture -/

def startFrame (p : Draft) (progressive baseline : Bool) (segment : Bytes) :
    Except Fault Draft := do
  if p.frame.isSome then .error (.unsupported "more than one frame")
  else
    let f ← readFrame progressive baseline segment
    checkSize f.width f.height f.components.size
    .ok { p with
      frame := some f
      blocks := f.components.map fun c => Array.replicate (f.blocksAcross c * f.blocksDown c) .zero
      scales := f.components.map fun _ => none }

-- The samples of a component; of one without factors there are none, and without a scan there are
-- only those of a picture in several scans.
def plane? (p : Draft) (f : Frame) (i : Nat) (c : Component) : Option Plane :=
  let scale := (p.scales.getD i none).or
    (if f.progressive then p.tables.factors.getD c.table none else none)
  scale.map fun factors =>
    let stride := 8 * f.blocksAcross c
    let empty := Array.replicate (stride * 8 * f.blocksDown c) 0
    let filled := (List.range (f.blocksAcross c * f.blocksDown c)).foldl (fun a n =>
      let corner := n / f.blocksAcross c * 8 * stride + n % f.blocksAcross c * 8
      (samples factors ((p.blocks.getD i #[]).getD n .zero)).zipIdx.foldl (fun a (v, k) =>
        a.setIfInBounds (corner + k / 8 * stride + k % 8) v) a) empty
    ⟨f.samplesAcross c, f.samplesDown c, stride, filled⟩

def finish (p : Draft) : Except Fault Raster :=
  match p.frame with
  | none => malformed "no frame"
  | some f =>
    let planes := f.components.toList.zipIdx.filterMap fun (c, i) => plane? p f i c
    if planes.length < f.components.size then malformed "no samples"
    else raster f p.tables planes.toArray

def read : (fuel : Nat) → (afterScan : Bool) → Draft → Bytes → Except Fault Raster
  | 0, _, _, _ => .error .ended
  | fuel + 1, afterScan, p, bs => do
    let (marker, bs) ← nextMarker bs
    if marker = 0xD9 then finish p
    else if 0xD0 ≤ marker && marker ≤ 0xD7 then
      if afterScan then read fuel true p bs else malformed "a restart outside a scan"
    else if marker < 0xC0 || marker = 0xD8 || 0xF0 ≤ marker && marker ≠ 0xFE then
      malformed "a marker out of place"
    else if marker = 0xC4 then
      let (segment, bs) ← takeSegment bs
      let tables ← readCodes p.tables (p.frame.any (·.baseline)) (segment.length + 1) segment
      read fuel false { p with tables := tables } bs
    else if marker = 0xCC || marker = 0xC8 then .error (.unsupported "kind of code")
    else if marker < 0xD0 then
      let (segment, bs) ← takeSegment bs
      if 0xC2 < marker then .error (.unsupported "kind of frame")
      else
        let p ← startFrame p (marker = 0xC2) (marker = 0xC0) segment
        read fuel false p bs
    else if marker = 0xDA then
      let (segment, bs) ← takeSegment bs
      match p.frame with
      | none => malformed "a scan before the frame"
      | some f =>
        let (p, bs) ← scan p f segment bs
        read fuel true p bs
    else if marker = 0xDB then
      let (segment, bs) ← takeSegment bs
      let tables ← readFactors p.tables (segment.length + 1) segment
      read fuel false { p with tables := tables } bs
    else if marker = 0xDD then
      let (segment, bs) ← takeSegment bs
      if segment.length ≠ 2 then malformed "an interval of a wrong size"
      else
        let restarts := ByteOrder.highFirst.value segment
        read fuel false { p with tables := { p.tables with restarts := restarts } } bs
    else if 0xE0 ≤ marker then
      let (segment, bs) ← takeSegment bs
      let tables ← readNote p.tables marker segment
      read fuel false { p with tables := tables } bs
    else .error (.unsupported "several frames")

def decode (bs : Bytes) : Except Fault Raster :=
  read (bs.length + 1) false {} (bs.drop 2)

end Jpeg
end Picture
end AccessReport
