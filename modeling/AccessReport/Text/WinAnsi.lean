import AccessReport.Text.Composition

/-!
The one-byte code of the standard fonts.
-/

namespace AccessReport
namespace WinAnsi

-- Characters outside ASCII and Latin-1 that have a code.
def specials : List (Char × UInt8) := [
  ('€', 0x80), ('‚', 0x82), ('ƒ', 0x83), ('„', 0x84), ('…', 0x85), ('†', 0x86), ('‡', 0x87),
  ('ˆ', 0x88), ('‰', 0x89), ('Š', 0x8A), ('‹', 0x8B), ('Œ', 0x8C), ('Ž', 0x8E), ('\u2018', 0x91),
  ('\u2019', 0x92), ('\u201C', 0x93), ('\u201D', 0x94), ('•', 0x95), ('\u2013', 0x96),
  ('\u2014', 0x97), ('˜', 0x98), ('™', 0x99), ('š', 0x9A), ('›', 0x9B), ('œ', 0x9C), ('ž', 0x9E),
  ('Ÿ', 0x9F)]

def space : UInt8 := 0x20
def unknown : UInt8 := 0x3F

-- The code of a character: control characters become spaces, characters without a code `?`.
def byte (c : Char) : UInt8 :=
  let n := c.toNat
  if n < 0x20 then space
  else if n < 0x7F || (0xA0 ≤ n && n ≤ 0xFF) then UInt8.ofNat n
  else (specials.lookup c).getD unknown

-- Encodes a text after composing its characters, so that a letter and its accent share a code.
def encode (cs : List Char) : List UInt8 :=
  (Composition.normalForm cs).map byte

def latin1 (bs : List UInt8) : String :=
  String.ofList (bs.map fun b => Char.ofNat b.toNat)

end WinAnsi
end AccessReport
