import AccessReport.Picture.Source
import AccessReport.Number.Decimal

/-!
Pictures with a header of words, and samples that are written as words too or as bytes.
-/

namespace AccessReport
namespace Picture
namespace Netpbm

inductive Kind where
  -- one bit, set for black
  | bits
  | gray
  | color
deriving DecidableEq

structure Header where
  kind    : Kind
  -- whether samples are bytes
  packed  : Bool
  width   : Nat
  height  : Nat
  -- the largest sample
  largest : Nat
  -- the largest sample of such a picture that may stand for white
  bound   : Option Nat := none

namespace Header

def channels (h : Header) : Channels :=
  match h.kind with
  | .bits | .gray => .gray
  | .color => .rgb

def samples (h : Header) : Nat :=
  h.width * h.height * h.channels.count

def isWide (h : Header) : Bool :=
  255 < h.largest

end Header

/-! ### Words -/

def isBlank (b : UInt8) : Bool :=
  b = 0x20 || (9 ≤ b && b ≤ 13)

def isLineEnd (b : UInt8) : Bool :=
  b = 10 || b = 13

-- A word of a header and what follows the blank behind it. Comments go up to the end of the line;
-- they and that end count for nothing, so that a word may go on behind a comment.
def word : (word : List UInt8) → (inComment : Bool) → Bytes → Except Fault (Taken (List UInt8))
  | w, _, [] => if w.isEmpty then .error .ended else .ok (w.reverse, [])
  | w, true, b :: bs => word w (!isLineEnd b) bs
  | w, false, b :: bs =>
    if b = 0x23 then word w true bs
    else if isBlank b then if w.isEmpty then word w false bs else .ok (w.reverse, bs)
    else if 128 ≤ b then .error (.malformed "a header of other characters")
    else word (b :: w) false bs

-- A number below `limit`; a plus sign may stand in front of it.
def number (limit : Nat) (w : List UInt8) : Except Fault Nat :=
  let cs := w.map fun b => Char.ofNat b.toNat
  let digits := match cs with
    | '+' :: ds => ds
    | ds => ds
  let n := Decimal.ofDigits digits
  if digits.isEmpty || !digits.all Decimal.isDigit || limit ≤ n then
    .error (.malformed "no number where one should be")
  else .ok n

def takeHeaderNumber (bs : Bytes) : Except Fault (Taken Nat) := do
  let (w, bs) ← word [] false bs
  let n ← number (Nat.pow 2 32) w
  .ok (n, bs)

/-! ### Headers -/

def takeHeader (kind : Kind) (packed : Bool) (bs : Bytes) : Except Fault (Taken Header) := do
  let (width, bs) ← takeHeaderNumber bs
  let (height, bs) ← takeHeaderNumber bs
  let (largest, bs) ← if kind = .bits then .ok (1, bs) else takeHeaderNumber bs
  if 0xFFFF < largest then .error (.malformed "samples are too large")
  else .ok (⟨kind, packed, width, height, largest, none⟩, bs)

-- The lines of a tagged header that were read so far.
structure Tagged where
  width   : Option Nat := none
  height  : Option Nat := none
  depth   : Option Nat := none
  largest : Option Nat := none
  type    : Option (List UInt8) := none

def trim (w : List UInt8) : List UInt8 :=
  ((w.dropWhile isBlank).reverse.dropWhile isBlank).reverse

def Tagged.put (t : Tagged) (name : String) (value : List UInt8) : Except Fault Tagged :=
  let once (old : Option Nat) (set : Nat → Tagged) : Except Fault Tagged :=
    if old.isSome then .error (.malformed "a line stands twice")
    else (number (Nat.pow 2 32) (trim value)).map set
  match name with
  | "WIDTH" => once t.width fun n => { t with width := some n }
  | "HEIGHT" => once t.height fun n => { t with height := some n }
  | "DEPTH" => once t.depth fun n => { t with depth := some n }
  | "MAXVAL" => once t.largest fun n => { t with largest := some n }
  | "TUPLTYPE" =>
    .ok { t with type := some (match t.type with
      | none => trim value
      | some before => before ++ 0x20 :: trim value) }
  | _ => .error (.malformed "an unknown line")

def Tagged.header (t : Tagged) : Except Fault Header :=
  match t.width, t.height, t.depth, t.largest with
  | some width, some height, some depth, some largest =>
    let header (kind : Kind) : Except Fault Header :=
      .ok ⟨kind, true, width, height, largest, none⟩
    match t.type.map Bytes.toText, depth with
    | none, 1 => .ok ⟨.gray, true, width, height, 255, none⟩
    | none, 3 => .ok ⟨.color, true, width, height, 255, none⟩
    | some "BLACKANDWHITE", 1 =>
      if largest = 1 then .ok ⟨.gray, true, width, height, 1, some 1⟩
      else .error (.malformed "samples of a wrong size")
    | some "GRAYSCALE", 1 =>
      if largest ≤ 0xFFFF then header .gray else .error (.malformed "samples are too large")
    | some "RGB", 3 =>
      if largest ≤ 0xFFFF then header .color else .error (.malformed "samples are too large")
    | _, _ => .error (.unsupported "kind of samples")
  | _, _, _, _ => .error (.malformed "a line is missing")

-- Reads the lines of a tagged header.
def takeTagged : (fuel : Nat) → Tagged → Bytes → Except Fault (Taken Header)
  | 0, _, _ => .error (.malformed "the header breaks off")
  | fuel + 1, t, bs =>
    let line := bs.takeWhile (· ≠ 10)
    let rest := bs.drop (line.length + 1)
    if bs.isEmpty then .error (.malformed "the header breaks off")
    else if line.head? = some 0x23 then takeTagged fuel t rest
    else if line.any (128 ≤ ·) then .error (.malformed "a header of other characters")
    else
      let line := line.dropWhile isBlank
      let name := line.takeWhile (!isBlank ·)
      if name = Bytes.ofText "ENDHDR" then do
        let h ← t.header
        .ok (h, rest)
      else do
        let t ← t.put (Bytes.toText name) (line.drop name.length)
        takeTagged fuel t rest

-- Takes the header, by the digit in its mark.
def takeAnyHeader (digit : UInt8) (bs : Bytes) : Except Fault (Taken Header) :=
  match digit with
  | 0x31 => takeHeader .bits false bs
  | 0x32 => takeHeader .gray false bs
  | 0x33 => takeHeader .color false bs
  | 0x34 => takeHeader .bits true bs
  | 0x35 => takeHeader .gray true bs
  | 0x36 => takeHeader .color true bs
  | _ =>
    match bs with
    | [] => .error .ended
    | b :: bs =>
      if b = 10 then takeTagged (bs.length + 1) {} bs
      else .error (.malformed "no line end behind the mark")

/-! ### Samples -/

-- Bits that are written as characters, possibly with blanks between them, last one first.
def writtenBits : (count : Nat) → (done : List UInt8) → Bytes → Except Fault (List UInt8)
  | 0, done, _ => .ok done
  | _ + 1, _, [] => .error (.malformed "too few samples")
  | count + 1, done, b :: bs =>
    if isBlank b then writtenBits (count + 1) done bs
    else if b = 0x30 then writtenBits count (255 :: done) bs
    else if b = 0x31 then writtenBits count (0 :: done) bs
    else .error (.malformed "no bit where one should be")

-- Numbers that are written as words, last one first.
def writtenNumbers (limit : Nat) : (count : Nat) → (done : List Nat) → Bytes →
    Except Fault (List Nat)
  | 0, done, _ => .ok done
  | count + 1, done, bs =>
    let bs := bs.dropWhile isBlank
    let w := bs.takeWhile (!isBlank ·)
    match number limit w with
    | .ok n => writtenNumbers limit count (n :: done) (bs.drop (w.length + 1))
    | .error fault => .error fault

def takeSamples (count : Nat) (bs : Bytes) : Except Fault Bytes :=
  match take count bs with
  | .ok (taken, _) => .ok taken
  | .error _ => .error (.malformed "too few samples")

-- Rows of bits, each filled up to whole bytes.
def packedBits (width height : Nat) (bs : Bytes) : Except Fault (Array UInt8) := do
  let rowBytes := (width + 7) / 8
  let data ← takeSamples (rowBytes * height) bs
  let data := data.toArray
  .ok ((List.range height).flatMap fun y => (List.range width).map fun x =>
    if (data.getD (y * rowBytes + x / 8) 0).toNat.testBit (7 - x % 8) then 0 else 255).toArray

def samples (h : Header) (bs : Bytes) : Except Fault (Array UInt8) := do
  match h.kind, h.packed with
  | .bits, true => packedBits h.width h.height bs
  | .bits, false =>
    let bits ← writtenBits h.samples [] bs
    .ok bits.reverse.toArray
  | _, true =>
    let data ← takeSamples (h.samples * (if h.isWide then 2 else 1)) bs
    match h.bound with
    | some bound =>
      if data.any (bound < ·.toNat) then .error (.malformed "a sample is too large")
      else .ok data.toArray
    | none => .ok (if h.isWide then narrowPairs .highFirst data else data.toArray)
  | _, false =>
    let ns ← writtenNumbers (if h.isWide then Nat.pow 2 16 else Nat.pow 2 8) h.samples [] bs
    .ok (ns.reverse.map fun n => if h.isWide then narrow n else UInt8.ofNat n).toArray

def decode (bs : Bytes) : Except Fault Raster := do
  match bs with
  | _ :: digit :: bs =>
    let (h, bs) ← takeAnyHeader digit bs
    checkSize h.width h.height (h.channels.count * (if h.isWide then 2 else 1))
    let samples ← samples h bs
    .ok (Raster.ofSamples h.width h.height h.channels samples)
  | _ => .error .ended

end Netpbm
end Picture
end AccessReport
