import AccessReport.Number.Binary

/-!
Single-precision numbers and their texts.
-/

namespace AccessReport
namespace Single

-- The fewest digits that read back, never an exponent, and no point for whole numbers.
def text (x : Float32) : String :=
  match BinaryFormat.single.decode x.toBits.toNat with
  | .nan => "NaN"
  | .infinite negative => if negative then "-inf" else "inf"
  | .finite negative m e =>
    let digits := Decimal.write .plain (BinaryFormat.single.shortest .away m e)
    String.ofList (if negative then '-' :: digits else digits)

-- The text for inspection: whole numbers keep a zero after the point, and numbers that are very
-- small or very large have an exponent.
def inspectionStyle : Decimal.Style :=
  ⟨some (-3, 16), true, false⟩

def inspect (x : Float32) : String :=
  match BinaryFormat.single.decode x.toBits.toNat with
  | .finite negative m e =>
    let digits := Decimal.write inspectionStyle (BinaryFormat.single.shortest .away m e)
    String.ofList (if negative then '-' :: digits else digits)
  | _ => text x

def ofBits (negative : Bool) (bits : Nat) : Float32 :=
  Float32.ofBits (UInt32.ofNat (if negative then bits + BinaryFormat.single.signBit else bits))

def ofDecimal (negative : Bool) (d : Decimal) : Float32 :=
  ofBits negative (BinaryFormat.single.ofDecimal d)

def ofInt (i : Int) : Float32 :=
  ofBits (i < 0) (BinaryFormat.single.nearest i.natAbs 1)

-- An optional sign at the front of a numeral, and the rest.
def splitSign : List Char → Bool × List Char
  | '-' :: cs => (true, cs)
  | '+' :: cs => (false, cs)
  | cs => (false, cs)

-- Exponents too long to matter are cut to this size.
def exponentLimit : Nat :=
  100000

-- The exponent that follows the digits of a numeral: nothing, or a mark and an integer.
def readExponent : List Char → Option Int
  | [] => some 0
  | mark :: cs =>
    if mark = 'e' || mark = 'E' then
      let (negative, ds) := splitSign cs
      if ds.isEmpty || !ds.all Decimal.isDigit then
        none
      else
        let n : Int := min (Decimal.ofDigits ds) exponentLimit
        some (if negative then -n else n)
    else
      none

-- A numeral: digits with at most one point, at least one digit, and an optional exponent.
def readDecimal (cs : List Char) : Option Decimal :=
  let (whole, rest) := Decimal.spanDigits cs
  let (fraction, rest) := match rest with
    | '.' :: rest => Decimal.spanDigits rest
    | rest => ([], rest)
  if whole.isEmpty && fraction.isEmpty then
    none
  else
    (readExponent rest).map fun e => ⟨Decimal.ofDigits (whole ++ fraction), e - fraction.length⟩

-- Reads a signed numeral, or a name of infinity or of not-a-number in any case.
def ofText? (s : String) : Option Float32 :=
  let (negative, cs) := splitSign s.toList
  let word := String.ofList (cs.map Char.toLower)
  if word = "nan" then
    some (ofBits negative (BinaryFormat.single.infinityBits + Nat.pow 2 22))
  else if word = "inf" || word = "infinity" then
    some (ofBits negative BinaryFormat.single.infinityBits)
  else
    (readDecimal cs).map (ofDecimal negative)

end Single
end AccessReport
