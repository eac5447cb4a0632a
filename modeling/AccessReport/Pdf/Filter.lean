import AccessReport.Compression.Ascii85
import AccessReport.Compression.Lzw
import AccessReport.Compression.RowFilter
import AccessReport.Pdf.Stream

/-!
The encodings in which streams hold their data.
-/

namespace AccessReport
namespace Pdf

variable {α : Type}

namespace Filter

-- Unpacked data is handed on in windows of this size.
def window : Nat :=
  32768

-- Data that ends early is unpacked as far as it goes; behind a fault the window in which it lies is
-- lost.
def inflated (bs : Bytes) : Bytes :=
  match Zlib.decompress bs with
  | .ok out => out
  | .error (.ended, out) => out.toList
  | .error (.corrupt, out) => out.toList.take (out.size / window * window)

-- A number among the parameters of a filter.
def parameter (parameters : Option (Dictionary α)) (key : String) (otherwise : Int) : Int :=
  ((parameters.bind (·.get? key)).bind Object.integer?).getD otherwise

-- Restores rows that each begin with the way in which they are given.
def rows (step length : Nat) : (fuel : Nat) → (up data : Bytes) → Option Bytes
  | 0, _, _ => some []
  | _, _, [] => some []
  | fuel + 1, up, b :: data => do
    let filter ← RowFilter.ofByte? b
    let row := data.take length
    if row.length < length then some []
    else
      let row := filter.restore step up row
      let rest ← rows step length fuel row (data.drop length)
      some (row ++ rest)

-- Undoes the prediction of rows that the parameters of a filter may ask for.
def unpredicted (parameters : Option (Dictionary α)) (data : Bytes) : Option Bytes :=
  let predictor := parameter parameters "Predictor" 1
  if 10 ≤ predictor && predictor ≤ 15 then
    let columns := (max 1 (parameter parameters "Columns" 1)).toNat
    let colors := (max 1 (parameter parameters "Colors" 1)).toNat
    let bits := (max 8 (parameter parameters "BitsPerComponent" 8)).toNat
    let step := colors * bits / 8
    rows step (step * columns) (data.length + 1) (List.replicate (step * columns) 0) data
  else some data

def decode (parameters : Option (Dictionary α)) (name data : Bytes) : Option Bytes :=
  if name = Bytes.ofText "FlateDecode" then
    unpredicted parameters (inflated data)
  else if name = Bytes.ofText "LZWDecode" then
    let early := parameter parameters "EarlyChange" 1 ≠ 0
    unpredicted parameters (Lzw.decompress ⟨8, early, true⟩ data).1
  else if name = Bytes.ofText "ASCII85Decode" then
    Ascii85.decode? data
  else none

end Filter

namespace Stream

-- The names of the filters, in the order in which they are undone.
def filters? (s : Stream α) : Option (List Bytes) :=
  match s.entries.get? "Filter" with
  | some (.name n) => some [n]
  | some (.array items) => items.mapM Object.name?
  | _ => none

variable [Coordinate α]

-- The data without its filters, when there are any and all of them are known.
def decoded? (s : Stream α) : Option Bytes := do
  let filters ← s.filters?
  let parameters := (s.entries.get? "DecodeParms").bind Object.dictionary?
  filters.foldlM (fun data name => Filter.decode parameters name data) s.content

-- The data as it is meant: without its filters, or as it is where that is not possible.
def plainContent (s : Stream α) : Bytes :=
  s.decoded?.getD s.content

-- The stream without its filters.
def decompress? (s : Stream α) : Option (Stream α) :=
  s.decoded?.map fun data =>
    Stream.withContent
      { s with entries := Dictionary.erase (Dictionary.erase s.entries "DecodeParms") "Filter" } data

-- How much shorter packed data must be; the entry for the filter takes that much.
def leastGain : Nat :=
  19

-- Packs the data of a stream without a filter, if that makes it shorter.
def compress (s : Stream α) : Stream α :=
  if !s.compressible || s.entries.contains "Filter" then s
  else
    let packed := Zlib.compress s.content
    if packed.length + leastGain < s.content.length then
      Stream.withContent { s with entries := s.entries.set "Filter" (.named "FlateDecode") } packed
    else s

end Stream
end Pdf
end AccessReport
