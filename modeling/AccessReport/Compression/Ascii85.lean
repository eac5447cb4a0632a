import AccessReport.Compression.Zlib

/-!
Four bytes as five printable characters.
-/

namespace AccessReport
namespace Ascii85

def isBlank (b : UInt8) : Bool :=
  b = 0x20 || (0x9 ≤ b && b ≤ 0xD && b ≠ 0xB)

-- The mark that ends the data.
def endMark : UInt8 := 0x7E

-- Stands for four zeros.
def zeros : UInt8 := 0x7A

-- The value of a group of five digits, when four bytes can hold it.
def value? (digits : List Nat) : Option Nat :=
  let n := digits.foldl (fun n d => n * 85 + d) 0
  if n < Nat.pow 2 32 then some n else none

-- The bytes of a group that may be shorter than five digits.
def group? (digits : List Nat) : Option Bytes :=
  if digits.isEmpty then some []
  else (value? (digits ++ List.replicate (5 - digits.length) 84)).map fun n =>
    (Zlib.bigEndian 4 n).take (digits.length - 1)

-- Reads characters up to the end mark; `digits` holds those of the group that is open.
def decodeFrom (digits : List Nat) : Bytes → Option Bytes
  | [] => group? digits
  | b :: bs =>
    if b = endMark then group? digits
    else if isBlank b then decodeFrom digits bs
    else if b = zeros && digits.isEmpty then (decodeFrom [] bs).map ([0, 0, 0, 0] ++ ·)
    else if 0x21 ≤ b && b ≤ 0x75 then
      let digits := digits ++ [b.toNat - 0x21]
      if digits.length = 5 then do
        let n ← value? digits
        let rest ← decodeFrom [] bs
        some (Zlib.bigEndian 4 n ++ rest)
      else decodeFrom digits bs
    else none

def decode? (bs : Bytes) : Option Bytes :=
  decodeFrom [] bs

end Ascii85
end AccessReport
