import AccessReport.Compression.Deflate

/-!
Deflated data between a header and a checksum.
-/

namespace AccessReport
namespace Zlib

-- The largest prime below `2 ^ 16`.
def checksumModulus : Nat :=
  65521

-- The sum of the bytes and the sum of its intermediate values.
def checksum (bs : Bytes) : Nat :=
  let (a, b) := bs.foldl
    (fun (a, b) x => ((a + x.toNat) % checksumModulus, (b + a + x.toNat) % checksumModulus)) (1, 0)
  b * Nat.pow 2 16 + a

-- A number as bytes, most significant first.
def bigEndian : (width : Nat) → Nat → Bytes
  | 0, _ => []
  | width + 1, n => UInt8.ofNat (n / Nat.pow 256 width) :: bigEndian width n

def ofBigEndian (bs : Bytes) : Nat :=
  bs.foldl (fun n b => n * 256 + b.toNat) 0

def compress (bs : Bytes) : Bytes :=
  0x78 :: 0x9C :: (Deflate.deflate bs ++ bigEndian 4 (checksum bs))

-- The header names the method and a window, and is divisible by thirty-one.
def isHeader (method flags : UInt8) : Bool :=
  method.toNat % 16 = 8 && method.toNat / 16 ≤ 7 && flags.toNat / 32 % 2 = 0 &&
  (method.toNat * 256 + flags.toNat) % 31 = 0

def decompress (bs : Bytes) : Except Inflate.Stopped Bytes :=
  match bs with
  | method :: flags :: rest =>
    if isHeader method flags then do
      let (output, rest) ← Inflate.inflate rest
      let sum := rest.take 4
      if sum.length < 4 then .error (.ended, output)
      else if ofBigEndian sum ≠ checksum output.toList then .error (.corrupt, output)
      else .ok output.toList
    else .error (.corrupt, #[])
  | _ => .error (.ended, #[])

end Zlib
end AccessReport
