/-!
Decimal numerals: a whole number of units of a power of ten, and the styles in which such a
number is written.
-/

namespace AccessReport

-- The number `digits * 10 ^ exponent`.
structure Decimal where
  digits   : Nat
  exponent : Int
deriving DecidableEq, Repr, Inhabited

namespace Decimal

def digitOf (n : Nat) : Char :=
  Char.ofNat ('0'.toNat + n % 10)

-- The digits of a number, most significant first; zero has one digit.
def digitsOf (n : Nat) : List Char :=
  go n []
where
  go (n : Nat) (tail : List Char) : List Char :=
    if n < 10 then
      digitOf n :: tail
    else
      go (n / 10) (digitOf n :: tail)
  termination_by n

def ofDigits (cs : List Char) : Nat :=
  cs.foldl (fun n c => n * 10 + (c.toNat - '0'.toNat)) 0

def isDigit (c : Char) : Bool :=
  '0' ≤ c && c ≤ '9'

def spanDigits (cs : List Char) : List Char × List Char :=
  (cs.takeWhile isDigit, cs.dropWhile isDigit)

-- The same number with no trailing zero among its digits.
def reduce (d : Decimal) : Decimal :=
  if h : d.digits = 0 then
    ⟨0, 0⟩
  else if d.digits % 10 = 0 then
    reduce ⟨d.digits / 10, d.exponent + 1⟩
  else
    d
termination_by d.digits
decreasing_by omega

-- How a decimal is written out.
structure Style where
  -- positions of the decimal point, counted from the first digit, that are written without
  -- an exponent; none bounds nothing
  pointRange : Option (Int × Int)
  -- whole numbers keep a zero after the point
  keepPoint  : Bool
  -- positive exponents carry a sign
  plusSign   : Bool

-- Always positional and without a point for whole numbers.
def Style.plain : Style :=
  ⟨none, false, false⟩

-- Positional for numbers from `0.00001` up to sixteen digits, an exponent otherwise.
def Style.scientific : Style :=
  ⟨some (-4, 16), true, true⟩

-- Writes the digits `ds` with the point after the first `point` of them.
def placePoint (ds : List Char) (point : Int) (keepPoint : Bool) : List Char :=
  if point ≤ 0 then
    '0' :: '.' :: (List.replicate (-point).toNat '0' ++ ds)
  else if point.toNat < ds.length then
    ds.take point.toNat ++ '.' :: ds.drop point.toNat
  else
    ds ++ List.replicate (point.toNat - ds.length) '0' ++ (if keepPoint then ['.', '0'] else [])

def exponentText (e : Int) (plusSign : Bool) : List Char :=
  if e < 0 then
    'e' :: '-' :: digitsOf e.natAbs
  else
    'e' :: ((if plusSign then ['+'] else []) ++ digitsOf e.natAbs)

def write (style : Style) (d : Decimal) : List Char :=
  let d := d.reduce
  if d.digits = 0 then
    if style.keepPoint then ['0', '.', '0'] else ['0']
  else
    let ds := digitsOf d.digits
    let point : Int := ds.length + d.exponent
    let positional := match style.pointRange with
      | none => true
      | some (low, high) => low ≤ point && point ≤ high
    if positional then
      placePoint ds point style.keepPoint
    else
      placePoint ds 1 false ++ exponentText (point - 1) style.plusSign

end Decimal

def natText (n : Nat) : String :=
  String.ofList (Decimal.digitsOf n)

def intText (i : Int) : String :=
  if i < 0 then "-" ++ natText i.natAbs else natText i.natAbs

end AccessReport
