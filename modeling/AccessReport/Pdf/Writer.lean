import AccessReport.Number.Coordinate
import AccessReport.Pdf.Object

/-!
How objects are written. Values that end where the next one begins are set apart by a space.
-/

namespace AccessReport
namespace Pdf

variable {α : Type}

def byteOf (c : Char) : UInt8 :=
  UInt8.ofNat c.toNat

def hexDigitByte (n : Nat) : UInt8 :=
  if n % 16 < 10 then UInt8.ofNat (0x30 + n % 16) else UInt8.ofNat (0x41 + n % 16 - 10)

def hexBytes (b : UInt8) : Bytes :=
  [hexDigitByte (b.toNat / 16), hexDigitByte b.toNat]

def natBytes (n : Nat) : Bytes :=
  Bytes.ofText (natText n)

/-! ### Character classes -/

def isWhite (b : UInt8) : Bool :=
  b ∈ (Bytes.ofText " \t\n\r\x00\x0C")

def isDelimiter (b : UInt8) : Bool :=
  b ∈ (Bytes.ofText "()<>[]\x7b\x7d/%")

-- What stands in a name as it is.
def isRegular (b : UInt8) : Bool :=
  !isWhite b && !isDelimiter b

-- What a name is written with as it is; other bytes are written as two digits.
def isPlain (b : UInt8) : Bool :=
  33 ≤ b && b ≤ 126 && isRegular b && b ≠ byteOf '#'

def nameBytes (n : Bytes) : Bytes :=
  byteOf '/' :: n.flatMap fun b => if isPlain b then [b] else byteOf '#' :: hexBytes b

/-! ### Strings -/

-- Whether a parenthesis that is open before `bs` is closed in it; `depth` counts those that were
-- opened after it.
def isClosedIn (depth : Nat) : Bytes → Bool
  | [] => false
  | b :: bs =>
    if b = byteOf '(' then isClosedIn (depth + 1) bs
    else if b = byteOf ')' then
      match depth with
      | 0 => true
      | depth + 1 => isClosedIn depth bs
    else isClosedIn depth bs

-- Escapes backslashes, carriage returns and the parentheses that have no partner; `depth` counts
-- the open ones that have one.
def escape (depth : Nat) : Bytes → Bytes
  | [] => []
  | b :: bs =>
    if b = byteOf '(' then
      if isClosedIn 0 bs then b :: escape (depth + 1) bs
      else byteOf '\\' :: b :: escape depth bs
    else if b = byteOf ')' then
      match depth with
      | 0 => byteOf '\\' :: b :: escape 0 bs
      | depth + 1 => b :: escape depth bs
    else if b = byteOf '\\' then byteOf '\\' :: b :: escape depth bs
    else if b = byteOf '\r' then byteOf '\\' :: byteOf 'r' :: escape depth bs
    else b :: escape depth bs

def stringBytes (bs : Bytes) : StringForm → Bytes
  | .literal => byteOf '(' :: (escape 0 bs ++ [byteOf ')'])
  | .hexadecimal => byteOf '<' :: (bs.flatMap hexBytes ++ [byteOf '>'])

/-! ### Values -/

namespace Object

-- Values that need a space before them.
def startsBare : Object α → Bool
  | null | boolean _ | integer _ | real _ | reference _ => true
  | _ => false

-- Values that need a space after them.
def endsBare : Object α → Bool
  | null | boolean _ | integer _ | real _ | reference _ | name _ => true
  | _ => false

def gap (o : Object α) : Bytes :=
  if o.startsBare then [byteOf ' '] else []

end Object

def ObjectId.bytes (id : ObjectId) : Bytes :=
  natBytes id.number ++ byteOf ' ' :: natBytes id.generation

variable [Coordinate α]

namespace Object

mutual

def bytes : Object α → Bytes
  | null => Bytes.ofText "null"
  | boolean b => Bytes.ofText (if b then "true" else "false")
  | integer i => Bytes.ofText (intText i)
  | real x => Bytes.ofText (Coordinate.text x)
  | name n => nameBytes n
  | string bs form => stringBytes bs form
  | array [] => Bytes.ofText "[]"
  | array (o :: os) => byteOf '[' :: (bytes o ++ itemsBytes os)
  | dictionary entries => Bytes.ofText "<<" ++ entriesBytes entries
  | reference id => id.bytes ++ Bytes.ofText " R"

-- The items behind the first one, and the closing bracket.
def itemsBytes : List (Object α) → Bytes
  | [] => [byteOf ']']
  | o :: os => o.gap ++ bytes o ++ itemsBytes os

def entriesBytes : List (Bytes × Object α) → Bytes
  | [] => Bytes.ofText ">>"
  | (k, o) :: es => nameBytes k ++ o.gap ++ bytes o ++ entriesBytes es

end

end Object
end Pdf
end AccessReport
