import AccessReport.Picture.Bmp
import AccessReport.Picture.Png

/-!
Collections of pictures of different sizes, of which the best one counts: the deepest, and of equally
deep ones the largest.
-/

namespace AccessReport
namespace Picture
namespace Icon

def signature : Bytes :=
  [0, 0, 1, 0]

structure Entry where
  width  : Nat
  height : Nat
  depth  : Nat
  length : Nat
  offset : Nat

namespace Entry

-- A side of no pixels stands for one of 256.
def side (n : Nat) : Nat :=
  if n = 0 then 256 else n

def area (e : Entry) : Nat :=
  side e.width * side e.height

def isBetter (e f : Entry) : Bool :=
  f.depth < e.depth || (f.depth = e.depth && f.area < e.area)

-- Whether a picture is as large as announced.
def isFor (e : Entry) (width height : Nat) : Bool :=
  side e.width = min width 256 && side e.height = min height 256

end Entry

def takeEntry (bs : Bytes) : Except Fault (Taken Entry) := do
  let (width, bs) ← takeNumber .lowFirst 1 bs
  let (height, bs) ← takeNumber .lowFirst 1 bs
  let (_, bs) ← take 2 bs
  let (planes, bs) ← takeNumber .lowFirst 2 bs
  if 256 < planes then .error (.malformed "too many planes")
  else
    let (depth, bs) ← takeNumber .lowFirst 2 bs
    if 256 < depth then .error (.malformed "too deep")
    else
      let (length, bs) ← takeNumber .lowFirst 4 bs
      let (offset, bs) ← takeNumber .lowFirst 4 bs
      .ok (⟨width, height, depth, length, offset⟩, bs)

def takeEntries : (count : Nat) → Bytes → Except Fault (List Entry)
  | 0, _ => .ok []
  | count + 1, bs => do
    let (e, bs) ← takeEntry bs
    let es ← takeEntries count bs
    .ok (e :: es)

-- The best entry; the last one is replaced only by better ones, the first of those that are equally
-- good.
def best? (entries : List Entry) : Option Entry :=
  entries.getLast?.map fun last =>
    entries.dropLast.foldl (fun best e => if e.isBetter best then e else best) last

-- Makes pixels transparent where bits of a mask are set; its rows come from the bottom.
def applyMask (width : Nat) (mask : Array UInt8) (rows : List Bytes) : List Bytes :=
  let maskRow := (width + 31) / 32 * 4
  let height := rows.length
  rows.zipIdx.map fun (row, y) =>
    let row := row.toArray
    ((List.range width).flatMap fun x =>
      let byte := mask.getD ((height - 1 - y) * maskRow + x / 8) 0
      let hidden := byte.toNat.testBit (7 - x % 8)
      [row.getD (4 * x) 0, row.getD (4 * x + 1) 0, row.getD (4 * x + 2) 0,
        if hidden then 0 else row.getD (4 * x + 3) 0])

-- A picture without a file header, whose height counts a mask as well.
def decodeBare (e : Entry) (bs : Bytes) : Except Fault Raster := do
  let (h, data) ← Bmp.readHeader bs
  let coding := match h.coding, h.depth with
    | .fields f, 32 => .fields { f with alpha := f.alpha.or (some ⟨24, 8⟩) }
    | coding, _ => coding
  let h := { h with height := h.height / 2, coding := coding, hasAlpha := true }
  if !e.isFor h.width h.height then .error (.malformed "the picture is not as large as announced")
  else match h.coding with
    | .runs => .error (.malformed "the picture is not as long as announced")
    | _ =>
      checkSize h.width h.height 4
      let rows ← Bmp.rows h data
      let behind := data.drop (h.rowBytes * h.height)
      let used := bs.length - behind.length
      let maskBytes := (h.width + 31) / 32 * 4 * h.height
      if used + maskBytes ≤ e.length then
        let (mask, _) ← take maskBytes behind
        .ok (Bmp.raster h (applyMask h.width mask.toArray rows))
      else if used = e.length then .ok (Bmp.raster h rows)
      else .error (.malformed "the picture is not as long as announced")

def decode (bs : Bytes) : Except Fault Raster := do
  let (count, rest) ← takeNumber .lowFirst 2 (bs.drop 4)
  let entries ← takeEntries count rest
  match best? entries with
  | none => .error (.malformed "no picture")
  | some e =>
    let data := bs.drop e.offset
    let (mark, _) ← take 8 data
    if mark = Png.signature then
      let p ← Png.decode data
      if e.length < 8 || !e.isFor p.width p.height || p.alpha.isNone then
        .error (.malformed "the picture is not as announced")
      else .ok p
    else decodeBare e data

end Icon
end Picture
end AccessReport
