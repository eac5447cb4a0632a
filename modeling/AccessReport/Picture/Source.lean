import AccessReport.Compression.Zlib
import AccessReport.Picture.Raster

/-!
Taking numbers and byte strings off the front of picture data.
-/

namespace AccessReport
namespace Picture

-- What was taken, and the data behind it.
abbrev Taken (β : Type) := β × Bytes

inductive ByteOrder where
  | lowFirst
  | highFirst
deriving DecidableEq, Repr

def ByteOrder.value (order : ByteOrder) (bs : Bytes) : Nat :=
  Zlib.ofBigEndian (match order with
    | lowFirst => bs.reverse
    | highFirst => bs)

def take (n : Nat) (bs : Bytes) : Except Fault (Taken Bytes) :=
  let taken := bs.take n
  if taken.length < n then .error .ended else .ok (taken, bs.drop n)

def takeNumber (order : ByteOrder) (width : Nat) (bs : Bytes) : Except Fault (Taken Nat) := do
  let (digits, rest) ← take width bs
  .ok (order.value digits, rest)

-- The bytes of a table at positions that start anew every `step` bytes.
def everyStep (data : Array UInt8) (count step : Nat) (offsets : List Nat) : Bytes :=
  (List.range count).flatMap fun i => offsets.map fun o => data.getD (step * i + o) 0

-- No picture may take up more bytes than this.
def sizeLimit : Nat :=
  Nat.pow 2 29

def checkSize (width height bytesPerPixel : Nat) : Except Fault Unit :=
  if sizeLimit < width * height * bytesPerPixel then .error (.unsupported "the picture is too large")
  else .ok ()

-- A sample of two bytes as one of a single byte, to the nearest.
def narrow (n : Nat) : UInt8 :=
  UInt8.ofNat ((n + 128) / 257)

def pairs (order : ByteOrder) (bs : Bytes) : Array Nat :=
  let data := bs.toArray
  ((List.range (data.size / 2)).map fun i =>
    order.value [data.getD (2 * i) 0, data.getD (2 * i + 1) 0]).toArray

-- Samples of two bytes as samples of one.
def narrowPairs (order : ByteOrder) (bs : Bytes) : Array UInt8 :=
  (pairs order bs).map narrow

end Picture
end AccessReport
