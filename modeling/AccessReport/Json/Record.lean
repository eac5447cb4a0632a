import AccessReport.Json.Reader

/-!
Reading records: objects whose keys are the names of fields, or lists of the fields in order. The
text is read from left to right, so of two faults the one that comes first is found.
-/

namespace AccessReport
namespace Json

/-! ### Values that are passed over -/

def skipDigits (cs : List Char) : List Char :=
  cs.dropWhile Decimal.isDigit

def startsWithDigit : List Char → Bool
  | c :: _ => Decimal.isDigit c
  | [] => false

def skipExponent (cs : List Char) : Except Fault (Read Unit) :=
  let (_, cs) := Single.splitSign cs
  if startsWithDigit cs then .ok ((), skipDigits cs) else fail .invalidNumber cs.tail

-- The fraction and the exponent of a number.
def skipFraction : List Char → Except Fault (Read Unit)
  | '.' :: cs =>
    if !startsWithDigit cs then failAt .invalidNumber cs
    else match skipDigits cs with
      | c :: rest => if c = 'e' || c = 'E' then skipExponent rest else .ok ((), c :: rest)
      | [] => .ok ((), [])
  | c :: cs => if c = 'e' || c = 'E' then skipExponent cs else .ok ((), c :: cs)
  | [] => .ok ((), [])

-- A number after its sign.
def skipNumber : List Char → Except Fault (Read Unit)
  | '0' :: cs => if startsWithDigit cs then failAt .invalidNumber cs else skipFraction cs
  | c :: cs =>
    if Decimal.isDigit c then skipFraction (skipDigits cs) else fail .invalidNumber cs
  | [] => fail .invalidNumber []

-- What a passed-over value is inside of.
inductive Frame where
  | list
  | object
deriving DecidableEq

def Frame.close : Frame → Char
  | list => ']'
  | object => '}'

def Frame.endCause : Frame → Cause
  | list => .endInList
  | object => .endInObject

def Frame.commaCause : Frame → Cause
  | list => .expectedListCommaOrEnd
  | object => .expectedObjectCommaOrEnd

mutual

-- Passes over a value and what closes the frames around it.
def skipIn : (fuel : Nat) → List Frame → List Char → Except Fault (Read Unit)
  | 0, _, cs => fail .endInValue cs
  | fuel + 1, frames, cs =>
    match skipSpace cs with
    | [] => fail .endInValue []
    | c :: rest =>
      match c with
      | 'n' => do
        let (_, rest) ← ident ['u', 'l', 'l'] rest
        skipAfter fuel true frames rest
      | 't' => do
        let (_, rest) ← ident ['r', 'u', 'e'] rest
        skipAfter fuel true frames rest
      | 'f' => do
        let (_, rest) ← ident ['a', 'l', 's', 'e'] rest
        skipAfter fuel true frames rest
      | '-' => do
        let (_, rest) ← skipNumber rest
        skipAfter fuel true frames rest
      | '"' => do
        let (_, rest) ← stringBody false .plain rest
        skipAfter fuel true frames rest
      | '[' => skipAfter fuel false (.list :: frames) rest
      | '{' => skipAfter fuel false (.object :: frames) rest
      | c =>
        if Decimal.isDigit c then do
          let (_, rest) ← skipNumber (c :: rest)
          skipAfter fuel true frames rest
        else failAt .expectedValue (c :: rest)

-- Goes on after a value, or right after a frame was opened.
def skipAfter : (fuel : Nat) → (afterValue : Bool) → List Frame → List Char →
    Except Fault (Read Unit)
  | 0, _, _, cs => fail .endInValue cs
  | fuel + 1, afterValue, frames, cs =>
    match frames with
    | [] => .ok ((), cs)
    | frame :: outer =>
      match skipSpace cs with
      | [] => fail frame.endCause []
      | c :: rest =>
        if c = ',' && afterValue then skipNext fuel frame outer rest
        else if c = frame.close then skipAfter fuel true outer rest
        else if afterValue then failAt frame.commaCause (c :: rest)
        else skipNext fuel frame outer (c :: rest)

-- Passes over the next value of a frame, with its key in an object.
def skipNext : (fuel : Nat) → Frame → List Frame → List Char → Except Fault (Read Unit)
  | 0, _, _, cs => fail .endInValue cs
  | fuel + 1, .list, outer, cs => skipIn fuel (.list :: outer) cs
  | fuel + 1, .object, outer, cs =>
    match skipSpace cs with
    | [] => fail .endInObject []
    | c :: rest =>
      if c ≠ '"' then failAt .keyNotString (c :: rest)
      else do
        let (_, rest) ← stringBody false .plain rest
        match skipSpace rest with
        | [] => fail .endInObject []
        | d :: rest =>
          if d = ':' then skipIn fuel (.object :: outer) rest
          else failAt .expectedColon (d :: rest)

end

def skipValue (cs : List Char) : Except Fault (Read Unit) :=
  skipIn (3 * cs.length + 3) [] cs

/-! ### Scalars of a known type -/

def Token.ofValue : Value → Token
  | .null => .null
  | .bool b => .bool b
  | .number n => .number n
  | .string s => .string s
  | .array _ => .sequence
  | .object _ => .map

namespace Token

-- A string, which is said to be expected as `what` where there is none.
def stringAs? (what : String) : Token → Except Cause String
  | string s => .ok s
  | t => .error (.invalidType t what)

def string? : Token → Except Cause String :=
  stringAs? "a string"

-- What is left once the end of a token was noticed, which in a number is noticed by the character
-- behind it.
def behind (t : Token) (rest : List Char) : List Char :=
  match t with
  | number _ => rest.tail
  | _ => rest

def word? : Token → Except Cause Nat
  | number (.natural n) =>
    if n < Nat.pow 2 32 then .ok n else .error (.invalidValue (number (.natural n)) "u32")
  | number (.negative n) => .error (.invalidValue (number (.negative n)) "u32")
  | t => .error (.invalidType t "u32")

-- Null is allowed and stands for nothing.
def option? {α} (f : Token → Except Cause α) : Token → Except Cause (Option α)
  | null => .ok none
  | t => (f t).map some

end Token

def scalar {α} (f : Token → Except Cause α) (cs : List Char) : Except Fault (Read α) := do
  let (t, rest) ← token cs
  match f t with
  | .ok a => .ok (a, rest)
  | .error cause => fail cause (t.behind rest)

/-! ### Records -/

-- A field of a record under construction.
structure Field (σ : Type) where
  name         : String
  -- whether it was read already
  isSet        : σ → Bool
  read         : (depth : Nat) → σ → List Char → Except Fault (Read σ)
  -- an object must hold it
  neededByName : Bool
  -- a list must be long enough to hold it
  neededByRank : Bool

structure Record (σ : Type) where
  name   : String
  fields : List (Field σ)
  blank  : σ

namespace Record

variable {σ : Type} (r : Record σ)

def expected : String :=
  "struct " ++ r.name

def missing? (s : σ) : Option Cause :=
  (r.fields.find? fun f => f.neededByName && !f.isSet s).map fun f => .missingField f.name

-- Reads the fields of a list from the one with rank `rank` on, up to its closing bracket.
def readList (depth : Nat) (s : σ) : (rank : Nat) → List (Field σ) → List Char →
    Except Fault (Read σ)
  | _, [], cs =>
    match skipSpace cs with
    | [] => fail .endInList []
    | c :: rest =>
      if c = ']' then .ok (s, rest)
      else if c = ',' then
        match skipSpace rest with
        | d :: rest =>
          if d = ']' then failAt .trailingComma (d :: rest)
          else failAt .trailingCharacters (d :: rest)
        | [] => fail .trailingCharacters []
      else failAt .trailingCharacters (c :: rest)
  | rank, f :: fs, cs =>
    match skipSpace cs with
    | [] => fail .endInList []
    | c :: rest =>
      if c = ']' then
        match (f :: fs).findIdx? (·.neededByRank) with
        | some i => fail
            (.invalidLength (rank + i)
              (r.expected ++ " with " ++ natText r.fields.length ++ " elements")) rest
        | none => .ok (s, rest)
      else if rank = 0 then do
        let (s, rest) ← f.read depth s (c :: rest)
        readList depth s (rank + 1) fs rest
      else if c = ',' then
        match skipSpace rest with
        | [] => fail .endInValue []
        | d :: rest =>
          if d = ']' then failAt .trailingComma (d :: rest)
          else do
            let (s, rest) ← f.read depth s (d :: rest)
            readList depth s (rank + 1) fs rest
      else failAt .expectedListCommaOrEnd (c :: rest)

mutual

-- Reads the entries of an object up to its closing brace; `other` reads the value of a key that is
-- no field.
def readObject (other : (depth : Nat) → String → σ → List Char → Except Fault (Read σ))
    (depth : Nat) : (fuel : Nat) → (first : Bool) → σ → List Char → Except Fault (Read σ)
  | 0, _, _, cs => fail .endInObject cs
  | fuel + 1, first, s, cs =>
    match skipSpace cs with
    | [] => fail .endInObject []
    | c :: rest =>
      if c = '}' then
        match r.missing? s with
        | some cause => fail cause rest
        | none => .ok (s, rest)
      else if first then
        if c = '"' then readEntry other depth fuel s rest else failAt .keyNotString (c :: rest)
      else if c = ',' then
        match skipSpace rest with
        | [] => fail .endInValue []
        | d :: rest =>
          if d = '"' then readEntry other depth fuel s rest
          else if d = '}' then failAt .trailingComma (d :: rest)
          else failAt .keyNotString (d :: rest)
      else failAt .expectedObjectCommaOrEnd (c :: rest)

-- Reads an entry after the quote that opens its key, and the entries after it.
def readEntry (other : (depth : Nat) → String → σ → List Char → Except Fault (Read σ))
    (depth : Nat) : (fuel : Nat) → σ → List Char → Except Fault (Read σ)
  | 0, _, cs => fail .endInObject cs
  | fuel + 1, s, cs => do
    let (key, rest) ← stringBody true .plain cs
    let key := String.ofList key
    let field := r.fields.find? (·.name = key)
    if field.any (·.isSet s) then
      -- what follows the key has been seen
      fail (.duplicateField key) (skipSpace rest).tail
    else
      match skipSpace rest with
      | [] => fail .endInObject []
      | c :: rest =>
        if c ≠ ':' then failAt .expectedColon (c :: rest)
        else do
          let (s, rest) ← match field with
            | some f => f.read depth s rest
            | none => other depth key s rest
          readObject other depth fuel false s rest

end

def skipOther (_ : Nat) (_ : String) (s : σ) (cs : List Char) : Except Fault (Read σ) := do
  let (_, rest) ← skipValue cs
  .ok (s, rest)

-- Reads a record that is an object or a list; keys that are no fields are passed over.
def read (depth : Nat) (cs : List Char) : Except Fault (Read σ) := do
  let (t, rest) ← token cs
  match t with
  | .sequence => r.readList (depth - 1) r.blank 0 r.fields rest
  | .map => r.readObject skipOther (depth - 1) (2 * rest.length + 2) true r.blank rest
  | t => fail (.invalidType t r.expected) (t.behind rest)

-- Reads a record that must be an object, and hands the values of other keys to `collect`.
def readCollecting (collect : String → Value → σ → σ) (depth : Nat) (cs : List Char) :
    Except Fault (Read σ) := do
  let (t, rest) ← token cs
  match t with
  | .map =>
    let other (depth : Nat) (key : String) (s : σ) (cs : List Char) := do
      let (v, rest) ← anyValue depth cs
      .ok (collect key v s, rest)
    r.readObject other (depth - 1) (2 * rest.length + 2) true r.blank rest
  | t => fail (.invalidType t r.expected) (t.behind rest)

end Record

-- Reads a list whose elements `item` reads.
def readItems {α} (item : List Char → Except Fault (Read α)) :
    (fuel : Nat) → (first : Bool) → List Char → Except Fault (Read (List α))
  | 0, _, cs => fail .endInList cs
  | fuel + 1, first, cs =>
    match skipSpace cs with
    | [] => fail .endInList []
    | c :: rest =>
      if c = ']' then .ok ([], rest)
      else if first then do
        let (a, rest) ← item (c :: rest)
        let (as, rest) ← readItems item fuel false rest
        .ok (a :: as, rest)
      else if c = ',' then
        match skipSpace rest with
        | [] => fail .endInValue []
        | d :: rest =>
          if d = ']' then failAt .trailingComma (d :: rest)
          else do
            let (a, rest) ← item (d :: rest)
            let (as, rest) ← readItems item fuel false rest
            .ok (a :: as, rest)
      else failAt .expectedListCommaOrEnd (c :: rest)

def readSequence {α} (item : List Char → Except Fault (Read α)) (cs : List Char) :
    Except Fault (Read (List α)) := do
  let (t, rest) ← token cs
  match t with
  | .sequence => readItems item (rest.length + 1) true rest
  | t => fail (.invalidType t "a sequence") (t.behind rest)

def scalarField {σ α : Type} (name : String) (get : σ → Option α) (set : σ → α → σ)
    (f : Token → Except Cause α) (neededByName neededByRank : Bool) : Field σ where
  name := name
  isSet s := (get s).isSome
  read _ s cs := do
    let (a, rest) ← scalar f cs
    .ok (set s a, rest)
  neededByName := neededByName
  neededByRank := neededByRank

end Json
end AccessReport
