import AccessReport.Picture.Source

/-!
Pictures in which each pixel is given by how it differs from the one before, or by its place among
the colors that were seen last.
-/

namespace AccessReport
namespace Picture
namespace Qoi

def signature : Bytes :=
  Bytes.ofText "qoif"

structure Pixel where
  r : UInt8
  g : UInt8
  b : UInt8
  a : UInt8
deriving Inhabited

def Pixel.bytes (p : Pixel) : Bytes :=
  [p.r, p.g, p.b, p.a]

-- The place of a color in the table of those that were seen.
def Pixel.place (p : Pixel) : Nat :=
  (p.r.toNat * 3 + p.g.toNat * 5 + p.b.toNat * 7 + p.a.toNat * 11) % 64

-- Nothing stands for a broken picture in this format but that it is broken.
def broken : Fault :=
  .malformed "corrupt pixels"

def ending : Bytes :=
  [0, 0, 0, 0, 0, 0, 0, 1]

-- The bytes of pixels, last one first, and what is behind them.
def pixels (hasAlpha : Bool) : (fuel left : Nat) → Pixel → (seen : Array Pixel) →
    (done : List Pixel) → Bytes → Except Fault (Taken (List Pixel))
  | _, 0, _, _, done, bs => .ok (done, bs)
  | 0, _ + 1, _, _, _, _ => .error broken
  | fuel + 1, left + 1, last, seen, done, bs =>
    let next (p : Pixel) (bs : Bytes) :=
      pixels hasAlpha fuel left p (seen.setIfInBounds p.place p) (p :: done) bs
    match bs with
    | 0xFE :: r :: g :: b :: bs => next { last with r, g, b } bs
    | 0xFF :: bs =>
      match hasAlpha, bs with
      | true, r :: g :: b :: a :: bs => next ⟨r, g, b, a⟩ bs
      | _, _ => .error broken
    | op :: bs =>
      let low := op % 64
      if op < 0x40 then
        let p := seen.getD op.toNat ⟨0, 0, 0, 0⟩
        pixels hasAlpha fuel left p seen (p :: done) bs
      else if op < 0x80 then
        next { last with
          r := last.r + low / 16 - 2
          g := last.g + low / 4 % 4 - 2
          b := last.b + low % 4 - 2 } bs
      else if op < 0xC0 then
        match bs with
        | more :: bs =>
          let green := low - 32
          next { last with
            r := last.r + green + more / 16 - 8
            g := last.g + green
            b := last.b + green + more % 16 - 8 } bs
        | [] => .error broken
      else if op < 0xFE then
        let run := min (low.toNat + 1) (left + 1)
        pixels hasAlpha fuel (left + 1 - run) last seen (List.replicate run last ++ done) bs
      else .error broken
    | [] => .error broken

def decode (bs : Bytes) : Except Fault Raster :=
  match bs.drop 4 with
  | w₁ :: w₂ :: w₃ :: w₄ :: h₁ :: h₂ :: h₃ :: h₄ :: channels :: space :: bs => do
    let width := ByteOrder.highFirst.value [w₁, w₂, w₃, w₄]
    let height := ByteOrder.highFirst.value [h₁, h₂, h₃, h₄]
    if width = 0 || height = 0 || 400000000 < width * height || (channels ≠ 3 && channels ≠ 4) ||
        1 < space then
      .error (.malformed "unknown header")
    else
      let hasAlpha := channels = 4
      checkSize width height channels.toNat
      let seen := Array.replicate 64 ⟨0, 0, 0, 0⟩
      let (ps, bs) ← pixels hasAlpha (width * height) (width * height) ⟨0, 0, 0, 255⟩ seen [] bs
      if bs.take 8 ≠ ending then .error broken
      else
        let raster := Raster.ofSamples width height .rgba (ps.reverse.flatMap (·.bytes)).toArray
        .ok (if hasAlpha then raster else { raster with alpha := none })
  | _ => .error broken

end Qoi
end Picture
end AccessReport
