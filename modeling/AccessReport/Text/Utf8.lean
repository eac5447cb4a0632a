/-!
Bytes as text and text as bytes.
-/

namespace AccessReport
namespace Utf8

def encodeChar (c : Char) : List UInt8 :=
  let n := c.toNat
  if n < 0x80 then
    [UInt8.ofNat n]
  else if n < 0x800 then
    [UInt8.ofNat (0xC0 + n / 0x40), UInt8.ofNat (0x80 + n % 0x40)]
  else if n < 0x10000 then
    [UInt8.ofNat (0xE0 + n / 0x1000), UInt8.ofNat (0x80 + n / 0x40 % 0x40),
      UInt8.ofNat (0x80 + n % 0x40)]
  else
    [UInt8.ofNat (0xF0 + n / 0x40000), UInt8.ofNat (0x80 + n / 0x1000 % 0x40),
      UInt8.ofNat (0x80 + n / 0x40 % 0x40), UInt8.ofNat (0x80 + n % 0x40)]

def encode (cs : List Char) : List UInt8 :=
  cs.flatMap encodeChar

def byteLength (cs : List Char) : Nat :=
  (encode cs).length

-- What a first byte announces: how many bytes follow it, the bits it gives itself, and the bounds
-- of the byte after it.
def announce (b : UInt8) : Option (Nat × Nat × UInt8 × UInt8) :=
  if b < 0x80 then some (0, b.toNat, 0x80, 0xBF)
  else if b < 0xC2 then none
  else if b < 0xE0 then some (1, b.toNat - 0xC0, 0x80, 0xBF)
  else if b = 0xE0 then some (2, 0, 0xA0, 0xBF)
  else if b = 0xED then some (2, 0xD, 0x80, 0x9F)
  else if b < 0xF0 then some (2, b.toNat - 0xE0, 0x80, 0xBF)
  else if b = 0xF0 then some (3, 0, 0x90, 0xBF)
  else if b < 0xF4 then some (3, b.toNat - 0xF0, 0x80, 0xBF)
  else if b = 0xF4 then some (3, 4, 0x80, 0x8F)
  else none

-- Reads the bytes that follow a first byte; the character is missing when they break off.
def continuation : Nat → Nat → UInt8 → UInt8 → List UInt8 → Option Char × List UInt8
  | 0, n, _, _, bs => (some (Char.ofNat n), bs)
  | _ + 1, _, _, _, [] => (none, [])
  | k + 1, n, low, high, b :: bs =>
    if low ≤ b && b ≤ high then continuation k (n * 0x40 + (b.toNat - 0x80)) 0x80 0xBF bs
    else (none, b :: bs)

theorem continuation_length_le (k n : Nat) (low high : UInt8) (bs : List UInt8) :
    (continuation k n low high bs).2.length ≤ bs.length := by
  induction k generalizing n low high bs with
  | zero => simp [continuation]
  | succ k ih =>
    cases bs with
    | nil => simp [continuation]
    | cons b bs =>
      rw [continuation]
      split
      · exact Nat.le_succ_of_le (ih ..)
      · simp

-- The characters of a byte string; `none` stands for each maximal part that is no character.
def decodeParts (bs : List UInt8) : List (Option Char) :=
  match bs with
  | [] => []
  | b :: bs =>
    match announce b with
    | none => none :: decodeParts bs
    | some (k, n, low, high) =>
      (continuation k n low high bs).1 :: decodeParts (continuation k n low high bs).2
termination_by bs.length
decreasing_by
  · simp
  · have := continuation_length_le k n low high bs
    simp; omega

-- Reads bytes with U+FFFD in place of each part that is no character.
def decodeLossy (bs : List UInt8) : List Char :=
  (decodeParts bs).map (·.getD '\uFFFD')

def decode? (bs : List UInt8) : Option (List Char) :=
  (decodeParts bs).mapM id

end Utf8
end AccessReport
