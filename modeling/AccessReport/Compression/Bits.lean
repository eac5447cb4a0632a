import AccessReport.Bytes

/-!
Byte strings as strings of bits, the least or the most significant bit of a byte first.
-/

namespace AccessReport

abbrev Bits := List Bool

namespace Bits

-- The lowest `width` bits of a number, least significant first.
def ofNat : (width : Nat) → Nat → Bits
  | 0, _ => []
  | width + 1, n => (n % 2 = 1) :: ofNat width (n / 2)

def toNat : Bits → Nat
  | [] => 0
  | b :: bs => (if b then 1 else 0) + 2 * toNat bs

def ofBytes (bs : Bytes) : Bits :=
  bs.flatMap fun b => ofNat 8 b.toNat

def ofBytesHighFirst (bs : Bytes) : Bits :=
  bs.flatMap fun b => (ofNat 8 b.toNat).reverse

-- Bits as bytes, the last one filled up with zeros.
def toBytes (bits : Bits) : Bytes :=
  go [] bits
where
  -- `done` holds the bytes before, last byte first
  go (done : Bytes) (bits : Bits) : Bytes :=
    match bits with
    | [] => done.reverse
    | b :: bs => go (UInt8.ofNat (toNat (b :: bs.take 7)) :: done) (bs.drop 7)
  termination_by bits.length
  decreasing_by simp only [List.length_drop, List.length_cons]; omega

theorem toNat_ofNat (width n : Nat) : toNat (ofNat width n) = n % Nat.pow 2 width := by
  induction width generalizing n with
  | zero => simp [ofNat, toNat, Nat.mod_one]
  | succ width ih =>
    simp only [ofNat, toNat, ih, decide_eq_true_eq]
    rw [show Nat.pow 2 (width + 1) = 2 * Nat.pow 2 width from Nat.mul_comm .., Nat.mod_mul]
    split <;> omega

end Bits
end AccessReport
