import AccessReport.Number.Binary

/-!
Double-precision numbers as they are written in exchanged data.
-/

namespace AccessReport
namespace Double

def ofBits (negative : Bool) (bits : Nat) : Float :=
  Float.ofBits (UInt64.ofNat (if negative then bits + BinaryFormat.double.signBit else bits))

-- The nearest number to a natural number.
def ofNat (n : Nat) : Float :=
  ofBits false (BinaryFormat.double.nearest n 1)

def powerOfTen (n : Nat) : Float :=
  ofBits false (BinaryFormat.double.ofDecimal ⟨1, n⟩)

-- The fewest digits that read back; whole numbers keep `.0` and very large or small ones have an
-- exponent.
def text (x : Float) : String :=
  match BinaryFormat.double.decode x.toBits.toNat with
  | .nan => "null"
  | .infinite _ => "null"
  | .finite negative m e =>
    let digits := Decimal.write .scientific (BinaryFormat.double.shortest .even m e)
    String.ofList (if negative then '-' :: digits else digits)

end Double
end AccessReport
