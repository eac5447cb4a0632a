/-!
Byte strings.
-/

namespace AccessReport

abbrev Bytes := List UInt8

namespace Bytes

-- A text of characters below U+0100, one byte each.
def ofText (s : String) : Bytes :=
  s.toList.map fun c => UInt8.ofNat c.toNat

def toText (bs : Bytes) : String :=
  String.ofList (bs.map fun b => Char.ofNat b.toNat)

-- What follows `start`, when the bytes begin with it.
def after? : (start : Bytes) → Bytes → Option Bytes
  | [], bs => some bs
  | _ :: _, [] => none
  | s :: start, b :: bs => if s = b then after? start bs else none

-- The bytes from the first occurrence of `pattern` on.
def find? (pattern : Bytes) : Bytes → Option Bytes
  | [] => if pattern.isEmpty then some [] else none
  | b :: bs => if (after? pattern (b :: bs)).isSome then some (b :: bs) else find? pattern bs

def indexOf? (pattern bs : Bytes) : Option Nat :=
  (find? pattern bs).map (bs.length - ·.length)

end Bytes
end AccessReport
