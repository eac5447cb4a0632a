import AccessReport.Number.Single

/-!
Numbers that a layout computes with. Layout rules are stated for every such number, so that they
can be run in single precision and reasoned about in exact arithmetic.
-/

namespace AccessReport

class Coordinate (α : Type) extends Add α, Sub α, Mul α, Div α, Neg α, LT α, LE α where
  -- the number nearest to an integer
  ofInt     : Int → α
  -- the number nearest to a decimal with a sign
  ofDecimal : (negative : Bool) → Decimal → α
  isNumber  : α → Bool
  isFinite  : α → Bool
  -- the largest whole number below, zero below zero
  floor     : α → Nat
  text      : α → String
  -- the text for inspection
  inspect   : α → String
  decideLT  : DecidableLT α
  decideLE  : DecidableLE α

namespace Coordinate

variable {α : Type} [Coordinate α]

instance : DecidableLT α := decideLT
instance : DecidableLE α := decideLE

def zero : α := ofInt 0
def one : α := ofInt 1
def two : α := ofInt 2

-- The larger of two numbers, the second when they are equal; what is no number does not count.
def larger (x y : α) : α :=
  if !isNumber y || y < x then x else y

-- The smaller of two numbers, the second when they are equal; what is no number does not count.
def smaller (x y : α) : α :=
  if !isNumber y || x < y then x else y

def clamp (low high x : α) : α :=
  if x < low then low else if high < x then high else x

end Coordinate

namespace Single

-- Counts are cut off at the largest machine word.
def largestCount : Nat :=
  Nat.pow 2 64 - 1

-- The whole part; negative numbers and what is no number have none.
def floor (x : Float32) : Nat :=
  match BinaryFormat.single.decode x.toBits.toNat with
  | .nan => 0
  | .infinite negative => if negative then 0 else largestCount
  | .finite negative m e =>
    if negative then 0
    else
      let (num, den) := BinaryFormat.scale m 1 e
      min (num / den) largestCount

end Single

instance : Coordinate Float32 where
  ofInt := Single.ofInt
  ofDecimal := Single.ofDecimal
  isNumber x := !x.isNaN
  isFinite := Float32.isFinite
  floor := Single.floor
  text := Single.text
  inspect := Single.inspect
  decideLT := inferInstance
  decideLE := inferInstance

end AccessReport
