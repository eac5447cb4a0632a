import AccessReport.Compression.Inflate

/-!
Packing data into one block in the standard code. Copies are looked for where the next three bytes
last occurred.
-/

namespace AccessReport
namespace Deflate

inductive Token where
  | literal (b : UInt8)
  | copy (length distance : Nat)

def shortestCopy : Nat := 3
def longestCopy : Nat := 258
def farthest : Nat := 32768
def tableSize : Nat := 4096

-- Where the three bytes at a position are noted in the table of last occurrences.
def slot (data : Array UInt8) (i : Nat) : Nat :=
  ((data.getD i 0).toNat * 961 + (data.getD (i + 1) 0).toNat * 31 + (data.getD (i + 2) 0).toNat) %
    tableSize

-- How many bytes at `i` and `j` agree, up to a limit.
def agreement (data : Array UInt8) (i j : Nat) : (limit : Nat) → Nat
  | 0 => 0
  | limit + 1 =>
    if data.getD i 0 = data.getD j 0 then agreement data (i + 1) (j + 1) limit + 1 else 0

-- Notes the positions from `i` on as last occurrences; a slot holds a position and one more.
def note (data : Array UInt8) (i : Nat) : (count : Nat) → Array Nat → Array Nat
  | 0, table => table
  | count + 1, table => note data (i + 1) count (table.setIfInBounds (slot data i) (i + 1))

-- The longest copy that the last occurrence of the next bytes gives.
def candidate (data : Array UInt8) (table : Array Nat) (i : Nat) : Option (Nat × Nat) :=
  match table.getD (slot data i) 0 with
  | 0 => none
  | j + 1 =>
    if j < i && i - j ≤ farthest then
      let length := agreement data j i (min longestCopy (data.size - i))
      if shortestCopy ≤ length then some (length, i - j) else none
    else none

-- The tokens of what is left from `i` on, behind those that were found before.
def tokensFrom (data : Array UInt8) : (fuel : Nat) → (i : Nat) → Array Nat → Array Token →
    Array Token
  | 0, _, _, found => found
  | fuel + 1, i, table, found =>
    match data[i]? with
    | none => found
    | some b => match candidate data table i with
      | some (length, distance) =>
        tokensFrom data fuel (i + length) (note data i length table)
          (found.push (.copy length distance))
      | none => tokensFrom data fuel (i + 1) (note data i 1 table) (found.push (.literal b))

def tokens (bs : Bytes) : List Token :=
  let data := bs.toArray
  (tokensFrom data data.size 0 (Array.replicate tableSize 0) #[]).toList

-- The symbol whose range a number falls into, and the bits that are added to its base.
def rankIn (bases : List (Nat × Nat)) (n : Nat) : Nat × Bits :=
  let rank := (bases.takeWhile (·.1 ≤ n)).length - 1
  let (base, width) := bases.getD rank (0, 0)
  (rank, Bits.ofNat width (n - base))

def wordOf (words : List (Nat × Bits)) (s : Nat) : Bits :=
  (words.lookup s).getD []

def tokenBits (literals distances : List (Nat × Bits)) : Token → Bits
  | .literal b => wordOf literals b.toNat
  | .copy length distance =>
    let (l, lengthBits) := rankIn Inflate.lengthBases length
    let (d, distanceBits) := rankIn Inflate.distanceBases distance
    wordOf literals (Inflate.endOfBlock + 1 + l) ++ lengthBits ++
      (wordOf distances d ++ distanceBits)

def deflate (bs : Bytes) : Bytes :=
  let literals := Huffman.words Inflate.standardLiteralLengths
  let distances := Huffman.words Inflate.standardDistanceLengths
  let body := (tokens bs).flatMap (tokenBits literals distances)
  Bits.toBytes (true :: true :: false :: (body ++ wordOf literals Inflate.endOfBlock))

end Deflate
end AccessReport
