import AccessReport.Number.Decimal

/-!
Binary floating-point formats in exact arithmetic: what a bit pattern means, the pattern nearest
to a quotient, and the shortest decimal that reads back as a given pattern.
-/

namespace AccessReport

-- A binary format: the bits of a significand, the bits of an exponent field and the weight of the
-- last bit of the smallest numbers.
structure BinaryFormat where
  precision    : Nat
  exponentBits : Nat
  minExponent  : Int

-- What a bit pattern stands for; a finite one is `significand * 2 ^ exponent`.
inductive Binary where
  | nan
  | infinite (negative : Bool)
  | finite (negative : Bool) (significand : Nat) (exponent : Int)
deriving DecidableEq, Repr

-- Which of two decimals is written for a number right between them.
inductive Tie where
  | away
  | even
deriving DecidableEq, Repr

namespace BinaryFormat

def single : BinaryFormat :=
  ⟨24, 8, -149⟩

def double : BinaryFormat :=
  ⟨53, 11, -1074⟩

-- Patterns of finite numbers are those below this one.
def infinityBits (f : BinaryFormat) : Nat :=
  (Nat.pow 2 f.exponentBits - 1) * Nat.pow 2 (f.precision - 1)

def signBit (f : BinaryFormat) : Nat :=
  Nat.pow 2 (f.exponentBits + f.precision - 1)

def decode (f : BinaryFormat) (bits : Nat) : Binary :=
  let negative := f.signBit ≤ bits
  let bits := bits % f.signBit
  if bits = f.infinityBits then
    .infinite negative
  else if f.infinityBits < bits then
    .nan
  else
    let unit := Nat.pow 2 (f.precision - 1)
    let field := bits / unit
    if field = 0 then
      .finite negative bits f.minExponent
    else
      .finite negative (unit + bits % unit) (f.minExponent + (field - 1 : Nat))

-- Multiplies a quotient by a power of two.
def scale (num den : Nat) (e : Int) : Nat × Nat :=
  if e < 0 then (num, den * Nat.pow 2 e.natAbs) else (num * Nat.pow 2 e.natAbs, den)

-- The quotient rounded to a whole number, a half to the even neighbour.
def roundDiv (num den : Nat) : Nat :=
  let q := num / den
  let r := num % den
  if 2 * r < den then q
  else if den < 2 * r then q + 1
  else q + q % 2

-- The pattern of the number nearest to `num / den`, infinity when it is too large.
def nearest (f : BinaryFormat) (num den : Nat) : Nat :=
  if num = 0 then
    0
  else
    let guess : Int := (num.log2 : Int) - den.log2 - f.precision
    -- the quotient over `2 ^ guess` has one bit more or less than the precision
    let (n, d) := scale num den (-guess)
    let e := if Nat.pow 2 f.precision * d ≤ n then guess + 1 else guess
    let e := max e f.minExponent
    let (n, d) := scale num den (-e)
    min (roundDiv n d + (e - f.minExponent).toNat * Nat.pow 2 (f.precision - 1)) f.infinityBits

-- Decimal exponents beyond these bounds make every double zero or infinite.
def exponentBound : Int :=
  400

-- The pattern of the number nearest to a decimal.
def ofDecimal (f : BinaryFormat) (d : Decimal) : Nat :=
  let d := d.reduce
  let size : Int := (Decimal.digitsOf d.digits).length + d.exponent
  if d.digits = 0 || size < -exponentBound then 0
  else if exponentBound < size then f.infinityBits
  else if d.exponent < 0 then f.nearest d.digits (Nat.pow 10 d.exponent.natAbs)
  else f.nearest (d.digits * Nat.pow 10 d.exponent.natAbs) 1

-- The largest `e` with `10 ^ e ≤ num / den`.
def decimalExponent (num den : Nat) : Int :=
  go 4 (((num.log2 : Int) - den.log2) * 30103 / 100000 - 2)
where
  go : Nat → Int → Int
    | 0, e => e
    | fuel + 1, e =>
      if powerLE (e + 1) then go fuel (e + 1) else e
  powerLE (e : Int) : Bool :=
    if e < 0 then den ≤ num * Nat.pow 10 e.natAbs else den * Nat.pow 10 e.natAbs ≤ num

-- The shortest decimal inside the interval of numbers that round to `significand * 2 ^ exponent`,
-- and of those the one nearest to it.
def shortest (f : BinaryFormat) (tie : Tie) (significand : Nat) (exponent : Int) : Decimal :=
  if significand = 0 then
    ⟨0, 0⟩
  else
    let (unit, den) := scale 1 1 (exponent - 2)
    let value := 4 * significand * unit
    let high := (4 * significand + 2) * unit
    let narrow := significand = Nat.pow 2 (f.precision - 1) && f.minExponent < exponent
    let low := (4 * significand - (if narrow then 1 else 2)) * unit
    let closed := significand % 2 = 0
    let top := decimalExponent value den
    go value low high den closed top 20 1
where
  go (value low high den : Nat) (closed : Bool) (top : Int) : Nat → Nat → Decimal
    | 0, n => ⟨0, n⟩
    | fuel + 1, n =>
      let k := top - n + 1
      let factor := if k < 0 then Nat.pow 10 k.natAbs else 1
      let step := if k < 0 then den else den * Nat.pow 10 k.natAbs
      let inside (c : Nat) : Bool :=
        if closed then low * factor ≤ c * step && c * step ≤ high * factor
        else low * factor < c * step && c * step < high * factor
      let below := value * factor / step
      let above := below + 1
      let preferBelow := match compare (2 * (value * factor)) ((below + above) * step) with
        | .lt => true
        | .eq => tie = .even && below % 2 = 0
        | .gt => false
      if inside below && (preferBelow || !inside above) then Decimal.reduce ⟨below, k⟩
      else if inside above then Decimal.reduce ⟨above, k⟩
      else go value low high den closed top fuel (n + 1)

end BinaryFormat
end AccessReport
