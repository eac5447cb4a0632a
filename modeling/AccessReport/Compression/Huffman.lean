import AccessReport.Compression.Bits

/-!
Prefix codes given by the lengths of their words. Words of one length are consecutive numbers, in
the order of their symbols, and shorter words come first.
-/

namespace AccessReport

inductive Huffman where
  | unused
  | symbol (s : Nat)
  | branch (zero one : Huffman)

namespace Huffman

def insert (s : Nat) : Bits → Huffman → Huffman
  | [], _ => symbol s
  | b :: bs, branch zero one => if b then branch zero (one.insert s bs) else branch (zero.insert s bs) one
  | b :: bs, _ => if b then branch unused (insert s bs unused) else branch (insert s bs unused) unused

-- Words are at most this long.
def longest : Nat :=
  15

-- The words of the symbols with a length, shortest words first.
def words (lengths : List Nat) : List (Nat × Bits) :=
  go 1 0 longest
where
  go (length next : Nat) : Nat → List (Nat × Bits)
    | 0 => []
    | more + 1 =>
      let symbols := (lengths.zipIdx.filter (·.1 = length)).map (·.2)
      let here := symbols.zipIdx.map fun (s, i) => (s, (Bits.ofNat length (next + i)).reverse)
      here ++ go (length + 1) (2 * (next + symbols.length)) more

-- How much of all words of the longest length the words of a code take.
def weight (lengths : List Nat) : Nat :=
  (lengths.filter (0 < ·)).foldl (fun n l => n + Nat.pow 2 (longest - l)) 0

-- The code with given lengths of words: no words too many, and none too few unless there is only
-- one.
def ofLengths? (lengths : List Nat) : Option Huffman :=
  let used := (lengths.filter (0 < ·)).length
  if Nat.pow 2 longest < weight lengths || (weight lengths < Nat.pow 2 longest && 1 < used) then
    none
  else
    some ((words lengths).foldl (fun t (s, w) => t.insert s w) unused)

inductive Outcome where
  | found (s : Nat) (rest : Bits)
  | ended
  | noWord

def decode : Huffman → Bits → Outcome
  | unused, _ => .noWord
  | symbol s, bits => .found s bits
  | branch _ _, [] => .ended
  | branch zero one, b :: bits => if b then one.decode bits else zero.decode bits

end Huffman
end AccessReport
