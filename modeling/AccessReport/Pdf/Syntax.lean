import AccessReport.Pdf.Mark

/-!
Reading objects and content streams. Every reader takes what it reads off the front of the bytes
and answers the rest, or nothing when the bytes do not begin with what it reads.
-/

namespace AccessReport
namespace Pdf

variable {α : Type}

-- A value and the bytes behind it.
abbrev Reading (β : Type) := β × Bytes

/-! ### Blanks -/

def isLineEnd (b : UInt8) : Bool :=
  b = byteOf '\r' || b = byteOf '\n'

def lineFeed : UInt8 := 10
def carriageReturn : UInt8 := 13

def lineEnd? : Bytes → Option Bytes
  | 13 :: 10 :: bs => some bs
  | b :: bs => if isLineEnd b then some bs else none
  | [] => none

-- What follows a comment, which needs an end of line.
def afterComment? (bs : Bytes) : Option Bytes :=
  lineEnd? (bs.dropWhile (!isLineEnd ·))

theorem length_dropWhile_le {β : Type} (p : β → Bool) (l : List β) :
    (l.dropWhile p).length ≤ l.length :=
  (List.dropWhile_sublist p).length_le

theorem lineEnd?_length {bs rest : Bytes} (h : lineEnd? bs = some rest) :
    rest.length < bs.length := by
  unfold lineEnd? at h
  split at h
  · cases h
    simp only [List.length_cons]
    omega
  · split at h <;> simp_all
  · simp at h

theorem afterComment?_length {bs rest : Bytes} (h : afterComment? bs = some rest) :
    rest.length < bs.length :=
  Nat.lt_of_lt_of_le (lineEnd?_length h) (length_dropWhile_le _ _)

-- Passes over blanks and comments.
def skipSpace (bs : Bytes) : Bytes :=
  match bs with
  | [] => []
  | b :: rest =>
    if isWhite b then skipSpace rest
    else if b = byteOf '%' then
      match _h : afterComment? rest with
      | some after => skipSpace after
      | none => b :: rest
    else b :: rest
termination_by bs.length
decreasing_by
  · simp
  · have := afterComment?_length _h
    simp; omega

-- Passes over the blanks of a content stream, in which there are no comments.
def skipContentSpace (bs : Bytes) : Bytes :=
  bs.dropWhile (· ∈ Bytes.ofText " \n\r\t")

def word? (w : String) (bs : Bytes) : Option Bytes :=
  Bytes.after? (Bytes.ofText w) bs

/-! ### Numbers -/

def isDigitByte (b : UInt8) : Bool :=
  0x30 ≤ b && b ≤ 0x39

-- At least one digit.
def digits? (bs : Bytes) : Option (Reading Bytes) :=
  let ds := bs.takeWhile isDigitByte
  if ds.isEmpty then none else some (ds, bs.dropWhile isDigitByte)

def digitsValue (ds : Bytes) : Nat :=
  ds.foldl (fun n d => n * 10 + (d.toNat - 0x30)) 0

-- A number without a sign that is below a limit.
def unsigned? (limit : Nat) (bs : Bytes) : Option (Reading Nat) := do
  let (ds, rest) ← digits? bs
  if digitsValue ds < limit then some (digitsValue ds, rest) else none

-- Whether a minus sign comes first, and what follows an optional sign.
def signOf : Bytes → Bool × Bytes
  | [] => (false, [])
  | b :: bs =>
    if b = byteOf '-' then (true, bs) else if b = byteOf '+' then (false, bs) else (false, b :: bs)

-- A whole number of sixty-four bits.
def integer? (bs : Bytes) : Option (Reading Int) := do
  let (negative, bs) := signOf bs
  let (ds, rest) ← digits? bs
  let n := digitsValue ds
  if negative then
    if n ≤ Nat.pow 2 63 then some (-(n : Int), rest) else none
  else if n < Nat.pow 2 63 then some ((n : Int), rest) else none

-- A number with a point, before or behind which there is a digit.
def decimal? (bs : Bytes) : Option (Reading (Bool × Decimal)) := do
  let (negative, bs) := signOf bs
  let whole := bs.takeWhile isDigitByte
  match bs.dropWhile isDigitByte with
  | point :: bs =>
    let fraction := bs.takeWhile isDigitByte
    if point ≠ byteOf '.' || (whole.isEmpty && fraction.isEmpty) then none
    else
      let d : Decimal := ⟨digitsValue (whole ++ fraction), -(fraction.length : Int)⟩
      some ((negative, d), bs.dropWhile isDigitByte)
  | [] => none

/-! ### Names and strings -/

def hexValue? (b : UInt8) : Option Nat :=
  if isDigitByte b then some (b.toNat - 0x30)
  else if 0x41 ≤ b && b ≤ 0x46 then some (b.toNat - 0x41 + 10)
  else if 0x61 ≤ b && b ≤ 0x66 then some (b.toNat - 0x61 + 10)
  else none

-- The bytes of a name; a number sign and two digits stand for one byte.
def nameBody : Bytes → Bytes × Bytes
  | 35 :: h :: l :: bs =>
    match hexValue? h, hexValue? l with
    | some x, some y =>
      let (n, rest) := nameBody bs
      (UInt8.ofNat (16 * x + y) :: n, rest)
    | _, _ => ([], 35 :: h :: l :: bs)
  | b :: bs =>
    if b ≠ byteOf '#' && isRegular b then
      let (n, rest) := nameBody bs
      (b :: n, rest)
    else ([], b :: bs)
  | [] => ([], [])

def name? : Bytes → Option (Reading Bytes)
  | b :: bs => if b = byteOf '/' then some (nameBody bs) else none
  | [] => none

-- Where a reader of a literal string stands.
inductive StringState where
  | plain
  -- behind a backslash
  | escaped
  -- behind a backslash and some octal digits
  | octal (digits value : Nat)
  -- behind a backslash and a carriage return
  | lineBreak

-- How many parentheses may be open inside a string.
def nestingLimit : Nat :=
  100

inductive StringMove where
  | stop
  | fail
  | go (emitted : Bytes) (state : StringState) (depth : Nat)

def octalValue? (b : UInt8) : Option Nat :=
  if 0x30 ≤ b && b ≤ 0x37 then some (b.toNat - 0x30) else none

def plainMove (depth : Nat) (b : UInt8) : StringMove :=
  if b = byteOf '(' then
    if depth < nestingLimit then .go [b] .plain (depth + 1) else .fail
  else if b = byteOf ')' then
    match depth with
    | 0 => .stop
    | depth + 1 => .go [b] .plain depth
  else if b = byteOf '\\' then .go [] .escaped depth
  else .go [b] .plain depth

-- What a byte behind a backslash stands for.
def escapedMove (depth : Nat) (b : UInt8) : StringMove :=
  match octalValue? b with
  | some d => .go [] (.octal 1 d) depth
  | none =>
    if b = carriageReturn then .go [] .lineBreak depth
    else if b = lineFeed then .go [] .plain depth
    else if b = byteOf 'n' then .go [lineFeed] .plain depth
    else if b = byteOf 'r' then .go [carriageReturn] .plain depth
    else if b = byteOf 't' then .go [9] .plain depth
    else if b = byteOf 'b' then .go [8] .plain depth
    else if b = byteOf 'f' then .go [12] .plain depth
    else .go [b] .plain depth

def StringMove.emit (bs : Bytes) : StringMove → StringMove
  | go emitted state depth => go (bs ++ emitted) state depth
  | m => m

def stringMove (state : StringState) (depth : Nat) (b : UInt8) : StringMove :=
  match state with
  | .plain => plainMove depth b
  | .escaped => escapedMove depth b
  | .octal digits value =>
    match octalValue? b with
    | some d =>
      if digits < 3 then .go [] (.octal (digits + 1) (8 * value + d)) depth
      else (plainMove depth b).emit [UInt8.ofNat value]
    | none => (plainMove depth b).emit [UInt8.ofNat value]
  | .lineBreak => if b = lineFeed then .go [] .plain depth else plainMove depth b

-- The byte that octal digits have written when a string ends behind them.
def StringState.pending : StringState → Bytes
  | octal _ value => [UInt8.ofNat value]
  | _ => []

-- The bytes of a literal string behind its opening parenthesis.
def literalBody (state : StringState) (depth : Nat) : Bytes → Option (Reading Bytes)
  | [] => none
  | b :: bs =>
    match stringMove state depth b with
    | .stop => some (state.pending, bs)
    | .fail => none
    | .go emitted state depth =>
      (literalBody state depth bs).map fun (s, rest) => (emitted ++ s, rest)

def literal? : Bytes → Option (Reading Bytes)
  | b :: bs => if b = byteOf '(' then literalBody .plain 0 bs else none
  | [] => none

-- The digits of a hexadecimal string, blanks between them passed over.
def hexBody (digits : List Nat) : Bytes → Option (Reading (List Nat))
  | [] => none
  | b :: bs =>
    if isWhite b then hexBody digits bs
    else if b = byteOf '>' then some (digits.reverse, bs)
    else match hexValue? b with
      | some d => hexBody (d :: digits) bs
      | none => none

-- Two digits a byte; a last one alone is followed by zero.
def pairs : List Nat → Bytes
  | [] => []
  | [h] => [UInt8.ofNat (16 * h)]
  | h :: l :: ds => UInt8.ofNat (16 * h + l) :: pairs ds

def hexString? : Bytes → Option (Reading Bytes)
  | b :: bs =>
    if b = byteOf '<' then (hexBody [] bs).map fun (ds, rest) => (pairs ds, rest) else none
  | [] => none

/-! ### Objects -/

-- Two numbers, blanks behind each.
def objectId? (bs : Bytes) : Option (Reading ObjectId) := do
  let (number, bs) ← unsigned? (Nat.pow 2 32) bs
  let (generation, bs) ← unsigned? (Nat.pow 2 16) (skipSpace bs)
  some (⟨number, generation⟩, skipSpace bs)

def reference? (bs : Bytes) : Option (Reading ObjectId) := do
  let (id, bs) ← objectId? bs
  let bs ← word? "R" bs
  some (id, bs)

section Objects

variable [Coordinate α]

-- An object that is no list, no dictionary and no reference.
def simple? (bs : Bytes) : Option (Reading (Object α)) :=
  match decimal? bs with
  | some ((negative, d), rest) => some (.real (Coordinate.ofDecimal negative d), rest)
  | none => match integer? bs with
  | some (i, rest) => some (.integer i, rest)
  | none => match name? bs with
  | some (n, rest) => some (.name n, rest)
  | none => match literal? bs with
  | some (s, rest) => some (.string s .literal, rest)
  | none => match hexString? bs with
  | some (s, rest) => some (.string s .hexadecimal, rest)
  | none => none

def constant? (bs : Bytes) : Option (Reading (Object α)) :=
  match word? "null" bs with
  | some rest => some (.null, rest)
  | none => match word? "true" bs with
  | some rest => some (.boolean true, rest)
  | none => match word? "false" bs with
  | some rest => some (.boolean false, rest)
  | none => none

mutual

-- An object; at the top of a content stream numbers are no references.
def objectIn (references : Bool) : (fuel : Nat) → Bytes → Option (Reading (Object α))
  | 0, _ => none
  | fuel + 1, bs =>
    match constant? bs with
    | some found => some found
    | none => match (if references then reference? bs else none) with
    | some (id, rest) => some (.reference id, rest)
    | none => match simple? bs with
    | some found => some found
    | none => match word? "<<" bs with
    | some inner => do
      let (d, rest) := entriesIn fuel [] (skipSpace inner)
      let rest ← word? ">>" rest
      some (.dictionary d, rest)
    | none => do
      let inner ← word? "[" bs
      let (items, rest) := itemsIn fuel (skipSpace inner)
      let rest ← word? "]" rest
      some (.array items, rest)

-- As many objects as there are.
def itemsIn : (fuel : Nat) → Bytes → List (Object α) × Bytes
  | 0, bs => ([], bs)
  | fuel + 1, bs =>
    match objectIn true fuel bs with
    | some (o, rest) =>
      let (items, rest) := itemsIn fuel (skipSpace rest)
      (o :: items, rest)
    | none => ([], bs)

-- As many entries as there are; of entries with one key the last one counts.
def entriesIn : (fuel : Nat) → Dictionary α → Bytes → Dictionary α × Bytes
  | 0, d, bs => (d, bs)
  | fuel + 1, d, bs =>
    match name? bs with
    | none => (d, bs)
    | some (key, rest) =>
      match objectIn true fuel (skipSpace rest) with
      | some (o, rest) => entriesIn fuel (d.put key o) (skipSpace rest)
      | none => (d, bs)

end

def fuelFor (bs : Bytes) : Nat :=
  2 * bs.length + 2

def object? (bs : Bytes) : Option (Reading (Object α)) :=
  objectIn true (fuelFor bs) bs

def dictionary? (bs : Bytes) : Option (Reading (Dictionary α)) :=
  match (object? bs : Option (Reading (Object α))) with
  | some (.dictionary d, rest) => some (d, rest)
  | _ => none

/-! ### Content streams -/

def isOperatorByte (b : UInt8) : Bool :=
  (0x41 ≤ b && b ≤ 0x5A) || (0x61 ≤ b && b ≤ 0x7A) || b ∈ Bytes.ofText "*'\""

def operands : (fuel : Nat) → Bytes → List (Object α) × Bytes
  | 0, bs => ([], bs)
  | fuel + 1, bs =>
    match objectIn false (fuelFor bs) bs with
    | some (o, rest) =>
      let (os, rest) := operands fuel (skipContentSpace rest)
      (o :: os, rest)
    | none => ([], bs)

-- Operands and the operator behind them.
def operation? (bs : Bytes) : Option (Reading (Operation α)) :=
  let (os, rest) := operands (bs.length + 1) bs
  let rest := skipContentSpace rest
  let operator := rest.takeWhile isOperatorByte
  if operator.isEmpty then none
  else some (⟨operator, os⟩, skipContentSpace (rest.dropWhile isOperatorByte))

-- As many operations as there are.
def operationsIn : (fuel : Nat) → Bytes → List (Operation α)
  | 0, _ => []
  | fuel + 1, bs =>
    match operation? bs with
    | some (o, rest) => o :: operationsIn fuel rest
    | none => []

-- The operations of a content stream, up to the first thing that is none.
def operations (bs : Bytes) : List (Operation α) :=
  operationsIn (bs.length + 1) (skipContentSpace bs)

end Objects
end Pdf
end AccessReport
