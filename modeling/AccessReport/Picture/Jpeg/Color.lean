import AccessReport.Picture.Jpeg.Wave

/-!
From the samples of components to pixels: components with fewer samples are spread over the pixels,
and brightness with two differences of color becomes red, green and blue.
-/

namespace AccessReport
namespace Picture
namespace Jpeg

-- The samples of a component, in rows that fill whole blocks.
structure Plane where
  -- of the samples in use
  width   : Nat
  height  : Nat
  stride  : Nat
  samples : Array UInt8

namespace Plane

def sample (p : Plane) (y x : Nat) : Nat :=
  (p.samples.getD (y * p.stride + x) 0).toNat

/-! ### Spreading -/

-- A row of half as many samples spread over the pixels, three parts of the nearer sample and one of
-- the farther one.
def spreadRow (p : Plane) (y : Nat) : List Nat :=
  (List.range p.width).flatMap fun x =>
    let near := p.sample y x
    let before := if x = 0 then near else p.sample y (x - 1)
    let after := if x + 1 < p.width then p.sample y (x + 1) else near
    [(3 * near + before + 2) / 4, (3 * near + after + 2) / 4]

-- The rows that a row of pixels lies between, the nearer one first.
def rowsAround (p : Plane) (y : Nat) : Nat × Nat :=
  let near := y / 2
  (near, if y % 2 = 0 then near - 1 else min (near + 1) (p.height - 1))

-- Three parts of a sample in the nearer row and one in the farther row.
def mixed (p : Plane) (y x : Nat) : Nat :=
  let (near, far) := p.rowsAround y
  3 * p.sample near x + p.sample far x

def mixedRow (p : Plane) (y : Nat) : List Nat :=
  (List.range p.width).map fun x => (p.mixed y x + 2) / 4

-- The same in both directions.
def mixedSpreadRow (p : Plane) (y : Nat) : List Nat :=
  (List.range p.width).flatMap fun x =>
    let near := p.mixed y x
    let half (atEdge : Bool) (x : Nat) : Nat :=
      if atEdge then (near + 2) / 4 else (3 * near + p.mixed y x + 8) / 16
    [half (x = 0) (x - 1), half (p.width ≤ x + 1) (x + 1)]

-- A row of pixels for a component that has one sample in `across` columns and `down` rows.
def row (p : Plane) (across down width y : Nat) : Array Nat :=
  let row :=
    if across = 1 && down = 1 then (List.range width).map (p.sample y)
    else if across = 2 && down = 1 then p.spreadRow y
    else if across = 1 && down = 2 then p.mixedRow y
    else if across = 2 && down = 2 then p.mixedSpreadRow y
    else (List.range width).map fun x => p.sample (y / down) (x / across)
  row.toArray

end Plane

/-! ### Colors -/

def clamped (n : Int) : UInt8 :=
  UInt8.ofNat (max 0 (min 255 n)).toNat

-- A color from its brightness and its differences to blue and to red, with twenty bits behind the
-- point.
def fineColor (y b r : Nat) : List UInt8 :=
  let y : Int := y * 0x100000 + 0x80000
  let b : Int := (b : Int) - 128
  let r : Int := (r : Int) - 128
  [clamped ((y + 1470104 * r) / 0x100000), clamped ((y - 360857 * b - 748830 * r) / 0x100000),
    clamped ((y + 1858077 * b) / 0x100000)]

-- The same with six bits behind the point.
def coarseColor (y b r : Nat) : List UInt8 :=
  let y : Int := y * 64 + 32
  let b : Int := ((b : Int) - 128) * 64
  let r : Int := ((r : Int) - 128) * 64
  [clamped (sum y (sum (portion r 13173) r) / 64),
    clamped (difference y (sum (portion b 11276) (portion r 23401)) / 64),
    clamped (sum y (sum (portion b 25297) b) / 64)]

-- How many pixels of a row are computed coarsely: whole groups of eight, but the last one.
def coarsePixels (width : Nat) : Nat :=
  (width / 8 - 1) * 8

-- A row of pixels from rows of three components.
def colorRow (mixesColors : Bool) (width : Nat) (rows : List (Array Nat)) : List UInt8 :=
  match rows with
  | [ys, bs, rs] =>
    (List.range width).flatMap fun x =>
      let (y, b, r) := (ys.getD x 0, bs.getD x 0, rs.getD x 0)
      if !mixesColors then [UInt8.ofNat y, UInt8.ofNat b, UInt8.ofNat r]
      else if x < coarsePixels width then coarseColor y b r
      else fineColor y b r
  | _ => []

-- Whether three components are brightness and differences of color, or what cannot be shown.
def mixesColors (f : Frame) (t : Tables) : Except Fault Bool :=
  match f.components.toList.map (·.id) with
  | [1, 2, 3] => .ok true
  | [82, 71, 66] => .ok false
  | [1, 34, 35] | [114, 103, 98] => .error (.unsupported "range of colors")
  | _ => .ok (t.usual || t.note ≠ some .plain)

def raster (f : Frame) (t : Tables) (planes : Array Plane) : Except Fault Raster :=
  if f.components.size = 1 then
    match planes[0]? with
    | some p =>
      let rows := (List.range f.height).flatMap fun y =>
        (List.range f.width).map fun x => UInt8.ofNat (p.sample y x)
      .ok (Raster.ofSamples f.width f.height .gray rows.toArray)
    | none => malformed "no samples"
  else do
    let mixes ← mixesColors f t
    let rows := (List.range f.height).flatMap fun y =>
      colorRow mixes f.width ((f.components.zip planes).toList.map fun (c, p) =>
        -- a picture of one column or row is not spread
        let across := if f.width = 1 then 1 else f.mostAcross / c.across
        let down := if f.height = 1 then 1 else f.mostDown / c.down
        p.row across down f.width y)
    .ok (Raster.ofSamples f.width f.height .rgb rows.toArray)

end Jpeg
end Picture
end AccessReport
