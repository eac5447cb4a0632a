import AccessReport.Compression.Bits

/-!
Unpacking data whose words stand for sequences that grow by one byte with every word.
-/

namespace AccessReport
namespace Lzw

structure Form where
  -- bits of a byte
  symbolWidth : Nat
  -- words get wider one word before the table needs it
  early       : Bool
  highFirst   : Bool

namespace Form

def clearWord (f : Form) : Nat :=
  Nat.pow 2 f.symbolWidth

def endWord (f : Form) : Nat :=
  Nat.pow 2 f.symbolWidth + 1

end Form

def widest : Nat :=
  12

-- The table of sequences behind the single bytes, last byte first, and the sequence of the word
-- before.
structure Table where
  sequences : Array Bytes := #[]
  previous  : Option Bytes := none

def Table.width (t : Table) (f : Form) : Nat :=
  match t.previous with
  | none => f.symbolWidth + 1
  | some _ => min widest ((f.endWord + 1 + t.sequences.size + f.early.toNat).log2 + 1)

def Table.find? (t : Table) (f : Form) (word : Nat) : Option Bytes :=
  if word < f.clearWord then some [UInt8.ofNat word]
  else if word ≤ f.endWord then none
  else t.sequences[word - f.endWord - 1]?

def Table.isFull (t : Table) (f : Form) : Bool :=
  Nat.pow 2 widest ≤ f.endWord + 1 + t.sequences.size

-- The table with the sequence before and a byte as a new sequence.
def Table.grow (t : Table) (f : Form) (last : UInt8) : Table :=
  match t.previous with
  | some p => if t.isFull f then t else { t with sequences := t.sequences.push (last :: p) }
  | none => t

-- The output, last byte first, and whether the data was whole.
def words (f : Form) : (fuel : Nat) → Table → Bytes → Bits → Bytes × Bool
  | 0, _, out, _ => (out, false)
  | fuel + 1, t, out, bits =>
    let width := t.width f
    let word := bits.take width
    if word.length < width then (out, false)
    else
      let word := Bits.toNat (if f.highFirst then word.reverse else word)
      let bits := bits.drop width
      if word = f.clearWord then words f fuel {} out bits
      else if word = f.endWord then (out, true)
      else match t.find? f word with
        | some sequence =>
          let t := t.grow f (sequence.getLast?.getD 0)
          words f fuel { t with previous := some sequence } (sequence ++ out) bits
        | none =>
          -- the word may stand for the sequence that it adds itself
          match t.previous with
          | some p =>
            if word = f.endWord + 1 + t.sequences.size && !t.isFull f then
              let sequence := p.getLast?.getD 0 :: p
              let t := t.grow f (p.getLast?.getD 0)
              words f fuel { t with previous := some sequence } (sequence ++ out) bits
            else (out, false)
          | none => (out, false)

-- Unpacks data as far as it goes, and says whether its end was reached.
def decompress (f : Form) (bs : Bytes) : Bytes × Bool :=
  let bits := if f.highFirst then Bits.ofBytesHighFirst bs else Bits.ofBytes bs
  let (out, whole) := words f (bits.length + 1) {} [] bits
  (out.reverse, whole)

end Lzw
end AccessReport
