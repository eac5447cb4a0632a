import AccessReport.Picture.Jpeg.Block

/-!
From coefficients to samples: each row and each column of a block is a sum of eight waves. The sums
are taken with numbers of sixteen bits that stop at their bounds, a sample standing for sixty-four.
-/

namespace AccessReport
namespace Picture
namespace Jpeg

-- A number within the bounds of sixteen bits.
def bound (n : Int) : Int :=
  max (-32768) (min 32767 n)

def sum (a b : Int) : Int :=
  bound (a + b)

def difference (a b : Int) : Int :=
  bound (a - b)

-- A number times a fraction of `2 ^ 15`, rounded.
def portion (a fraction : Int) : Int :=
  wrap ((a * fraction + 0x4000) / 0x8000)

-- The sums of eight waves.
def waves : List Int → List Int
  | [s₀, s₁, s₂, s₃, s₄, s₅, s₆, s₇] =>
    let p := portion (sum s₂ s₆) 17734
    let t₂ := difference (difference p s₆) (portion s₆ 27779)
    let t₃ := sum p (portion s₂ 25079)
    let t₀ := sum s₀ s₄
    let t₁ := difference s₀ s₄
    let x₀ := sum t₀ t₃
    let x₃ := difference t₀ t₃
    let x₁ := sum t₁ t₂
    let x₂ := difference t₁ t₂
    let p₃ := sum s₇ s₃
    let p₄ := sum s₅ s₁
    let p₁ := sum s₇ s₁
    let p₂ := sum s₅ s₃
    let p₅ := sum p₃ p₄
    let p₅ := sum p₅ (portion p₅ 5763)
    let t₀ := portion s₇ 9786
    let t₁ := sum (sum s₅ s₅) (portion s₅ 1741)
    let t₂ := sum (sum s₃ (sum s₃ s₃)) (portion s₃ 2383)
    let t₃ := sum s₁ (portion s₁ 16427)
    let p₁ := difference p₅ (portion p₁ 29490)
    let p₂ := difference (difference (difference p₅ p₂) p₂) (portion p₂ 18446)
    let p₃ := difference (portion p₃ (-31509)) p₃
    let p₄ := portion p₄ (-12785)
    let t₃ := sum (sum p₁ p₄) t₃
    let t₂ := sum (sum p₂ p₃) t₂
    let t₁ := sum (sum p₂ p₄) t₁
    let t₀ := sum (sum p₁ p₃) t₀
    [sum x₀ t₃, sum x₁ t₂, sum x₂ t₁, sum x₃ t₀, difference x₃ t₀, difference x₂ t₁,
      difference x₁ t₂, difference x₀ t₃]
  | s => s

def transpose (rows : List (List Int)) : List (List Int) :=
  (List.range 8).map fun i => rows.map fun row => row.getD i 0

def samples (factors : Array Nat) (b : Block) : List UInt8 :=
  let rows := (List.range 8).map fun y => (List.range 8).map fun x =>
    wrap (wrap (b.getD (8 * y + x) 0 * (factors.getD (8 * y + x) 0 : Nat)) * 8)
  let columns := (transpose rows).map waves
  let rows := (transpose columns).map waves
  rows.flatten.map fun n =>
    UInt8.ofNat (max 0 (min 255 (sum n (128 * 64 + 32) / 64))).toNat

end Jpeg
end Picture
end AccessReport
