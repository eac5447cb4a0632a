import AccessReport.Json.Fault
import AccessReport.Number.Single
import AccessReport.Text.Utf8

/-!
Reading JSON text. A reader takes the characters that are left and answers with what it read and
what is left then.
-/

namespace AccessReport
namespace Json

def isSpace (c : Char) : Bool :=
  c = ' ' || c = '\n' || c = '\t' || c = '\r'

def skipSpace (cs : List Char) : List Char :=
  cs.dropWhile isSpace

/-! ### Literals -/

def ident : List Char → List Char → Except Fault (Read Unit)
  | [], cs => .ok ((), cs)
  | _ :: _, [] => fail .endInValue []
  | w :: ws, c :: cs => if c = w then ident ws cs else fail .expectedIdent cs

/-! ### Strings -/

def hexValue (c : Char) : Option Nat :=
  if '0' ≤ c && c ≤ '9' then some (c.toNat - '0'.toNat)
  else if 'a' ≤ c && c ≤ 'f' then some (c.toNat - 'a'.toNat + 10)
  else if 'A' ≤ c && c ≤ 'F' then some (c.toNat - 'A'.toNat + 10)
  else none

-- Where a reader stands inside a string.
inductive StringState where
  | plain
  | escaped
  -- inside four hexadecimal digits, `count` of which gave `value`; `high` is the first half of a
  -- character that is written in two
  | hex (high : Option Nat) (count value : Nat)
  | secondEscape (high : Nat)
  | secondMark (high : Nat)

def simpleEscape (c : Char) : Option Char :=
  match c with
  | '"' => some '"'
  | '\\' => some '\\'
  | '/' => some '/'
  | 'b' => some '\x08'
  | 'f' => some '\x0c'
  | 'n' => some '\n'
  | 'r' => some '\r'
  | 't' => some '\t'
  | _ => none

def isHighSurrogate (n : Nat) : Bool :=
  0xD800 ≤ n && n ≤ 0xDBFF

def isLowSurrogate (n : Nat) : Bool :=
  0xDC00 ≤ n && n ≤ 0xDFFF

-- The state and the character that four hexadecimal digits lead to. Unless `strict`, halves of
-- characters are passed over.
def closeHex (strict : Bool) (high : Option Nat) (n : Nat) :
    Except Cause (StringState × List Char) :=
  match high with
  | none =>
    if !strict then .ok (.plain, [])
    else if isLowSurrogate n then .error .loneSurrogate
    else if isHighSurrogate n then .ok (.secondEscape n, [])
    else .ok (.plain, [Char.ofNat n])
  | some h =>
    if isLowSurrogate n then
      .ok (.plain, [Char.ofNat ((h - 0xD800) * 0x400 + (n - 0xDC00) + 0x10000)])
    else .error .loneSurrogate

-- One step through the characters of a string: the next state and what was read.
def stringStep (strict : Bool) (state : StringState) (c : Char) (cs : List Char) :
    Except Cause (StringState × List Char) :=
  match state with
  | .plain =>
    if c = '\\' then .ok (.escaped, [])
    else if c.toNat < 0x20 then .error .controlCharacter
    else .ok (.plain, [c])
  | .escaped =>
    if c = 'u' then .ok (.hex none 0 0, [])
    else match simpleEscape c with
      | some d => .ok (.plain, [d])
      | none => .error .invalidEscape
  | .hex high count value =>
    match hexValue c with
    | some d =>
      if count = 3 then closeHex strict high (value * 16 + d)
      else .ok (.hex high (count + 1) (value * 16 + d), [])
    | none =>
      if 4 ≤ count + Utf8.byteLength (c :: cs) then .error .invalidEscape else .error .endInString
  | .secondEscape high =>
    if c = '\\' then .ok (.secondMark high, []) else .error .unpairedSurrogate
  | .secondMark high =>
    if c = 'u' then .ok (.hex (some high) 0 0, []) else .error .unpairedSurrogate

-- Reads the characters of a string up to its closing quote.
def stringBody (strict : Bool) (state : StringState) : List Char → Except Fault (Read (List Char))
  | [] => fail .endInString []
  | c :: cs =>
    match state, c with
    | .plain, '"' => .ok ([], cs)
    | state, c =>
      match stringStep strict state c cs with
      | .error cause => fail cause cs
      | .ok (state, read) => do
        let (s, rest) ← stringBody strict state cs
        .ok (read ++ s, rest)

/-! ### Numbers -/

def maxWord : Nat := Nat.pow 2 64 - 1

def digitValue (c : Char) : Nat :=
  c.toNat - '0'.toNat

-- Divides by powers of ten that are too large to write; the quotient may become zero.
def shrink : Nat → Float → Nat → Float
  | 0, x, n => x / Double.powerOfTen n
  | fuel + 1, x, n =>
    if n ≤ 308 then x / Double.powerOfTen n
    else if x == 0 then x
    else shrink fuel (x / Double.powerOfTen 308) (n - 308)

-- `significand * 10 ^ exponent`, computed in double precision in one step where it can be; missing
-- when the product is infinite.
def scaled (significand : Nat) (exponent : Int) : Option Float :=
  let x := Double.ofNat significand
  if 0 ≤ exponent then
    if exponent ≤ 308 then
      let y := x * Double.powerOfTen exponent.toNat
      if y.isInf then none else some y
    else if significand = 0 then some x else none
  else
    some (shrink 10 x exponent.natAbs)

def signed (negative : Bool) (x : Float) : Float :=
  if negative then -x else x

def fromParts (negative : Bool) (significand : Nat) (exponent : Int) (rest : List Char) :
    Except Fault (Read Number) :=
  match scaled significand exponent with
  | some x => .ok (.float (signed negative x), rest)
  | none => fail .numberOutOfRange rest

-- Digits past the size of a word are left out; how many is the second part of the answer.
def wholeDigits (significand : Nat) : List Char → Nat × Nat × List Char
  | [] => (significand, 0, [])
  | c :: cs =>
    if Decimal.isDigit c then
      if maxWord < significand * 10 + digitValue c then
        (significand, 1 + (cs.takeWhile Decimal.isDigit).length, cs.dropWhile Decimal.isDigit)
      else
        wholeDigits (significand * 10 + digitValue c) cs
    else
      (significand, 0, c :: cs)

-- Digits after the point up to the size of a word, and how many were taken.
def fractionDigits (significand taken : Nat) : List Char → Nat × Nat × Bool × List Char
  | [] => (significand, taken, false, [])
  | c :: cs =>
    if Decimal.isDigit c then
      if maxWord < significand * 10 + digitValue c then
        (significand, taken, true, cs.dropWhile Decimal.isDigit)
      else
        fractionDigits (significand * 10 + digitValue c) (taken + 1) cs
    else
      (significand, taken, false, c :: cs)

-- The bound on exponents; a longer one is zero or out of range.
def maxExponent : Nat := Nat.pow 2 31 - 1

def exponentPart (negative : Bool) (significand : Nat) (start : Int) (cs : List Char) :
    Except Fault (Read Number) :=
  let (negativeExponent, cs) := Single.splitSign cs
  match cs with
  | [] => fail .endInValue []
  | c :: rest =>
    if Decimal.isDigit c then
      let (ds, rest) := Decimal.spanDigits (c :: rest)
      let n := Decimal.ofDigits ds
      if maxExponent < n then
        if significand ≠ 0 && !negativeExponent then fail .numberOutOfRange rest
        else .ok (.float (signed negative 0), rest)
      else
        fromParts negative significand (if negativeExponent then start - n else start + n) rest
    else
      fail .invalidNumber rest

def fractionPart (negative : Bool) (significand : Nat) (start : Int) (cs : List Char) :
    Except Fault (Read Number) :=
  let (significand, taken, full, rest) := fractionDigits significand 0 cs
  if taken = 0 && !full then
    match rest with
    | [] => fail .endInValue []
    | rest => failAt .invalidNumber rest
  else
    let exponent := start - taken
    match rest with
    | c :: rest =>
      if c = 'e' || c = 'E' then exponentPart negative significand exponent rest
      else fromParts negative significand exponent (c :: rest)
    | [] => fromParts negative significand exponent []

-- A number after its sign.
def number (negative : Bool) (cs : List Char) : Except Fault (Read Number) :=
  match cs with
  | [] => fail .endInValue []
  | c :: cs =>
    if !Decimal.isDigit c then
      fail .invalidNumber cs
    else
      let (significand, dropped, rest) :=
        if c = '0' then (0, 0, cs) else wholeDigits (digitValue c) cs
      match rest with
      | '.' :: rest => fractionPart negative significand dropped rest
      | d :: rest =>
        if d = 'e' || d = 'E' then exponentPart negative significand dropped rest
        else if c = '0' && Decimal.isDigit d then failAt .invalidNumber (d :: rest)
        else wholeNumber significand dropped (d :: rest)
      | [] => wholeNumber significand dropped []
where
  wholeNumber (significand dropped : Nat) (rest : List Char) : Except Fault (Read Number) :=
    if 0 < dropped then fromParts negative significand dropped rest
    else if !negative then .ok (.natural significand, rest)
    else if significand = 0 || Nat.pow 2 63 < significand then
      .ok (.float (-(Double.ofNat significand)), rest)
    else .ok (.negative significand, rest)

/-! ### Values -/

-- A scalar as a whole, or the fact that a list or an object starts here.
def token (cs : List Char) : Except Fault (Read Token) :=
  match skipSpace cs with
  | [] => fail .endInValue []
  | c :: rest =>
    match c with
    | 'n' => do
      let (_, rest) ← ident ['u', 'l', 'l'] rest
      .ok (.null, rest)
    | 't' => do
      let (_, rest) ← ident ['r', 'u', 'e'] rest
      .ok (.bool true, rest)
    | 'f' => do
      let (_, rest) ← ident ['a', 'l', 's', 'e'] rest
      .ok (.bool false, rest)
    | '-' => do
      let (n, rest) ← number true rest
      .ok (.number n, rest)
    | '"' => do
      let (s, rest) ← stringBody true .plain rest
      .ok (.string (String.ofList s), rest)
    | '[' => .ok (.sequence, rest)
    | '{' => .ok (.map, rest)
    | c =>
      if Decimal.isDigit c then do
        let (n, rest) ← number false (c :: rest)
        .ok (.number n, rest)
      else failAt .expectedValue (c :: rest)

-- Values may be nested less deeply than this.
def depthLimit : Nat := 128

mutual

-- A value with at most `depth - 1` lists and objects inside each other.
def value : (fuel depth : Nat) → List Char → Except Fault (Read Value)
  | 0, _, cs => fail .endInValue cs
  | fuel + 1, depth, cs =>
    do
      let (t, rest) ← token cs
      match t with
      | .null => .ok (.null, rest)
      | .bool b => .ok (.bool b, rest)
      | .number n => .ok (.number n, rest)
      | .string s => .ok (.string s, rest)
      | .sequence =>
        if depth ≤ 1 then fail .tooDeep rest
        else
          let (items, rest) ← elements fuel (depth - 1) true rest
          .ok (.array items, rest)
      | .map =>
        if depth ≤ 1 then fail .tooDeep rest
        else
          let (entries, rest) ← members fuel (depth - 1) true [] rest
          .ok (.object entries, rest)

-- The elements of a list up to its closing bracket.
def elements : (fuel depth : Nat) → (first : Bool) → List Char → Except Fault (Read (List Value))
  | 0, _, _, cs => fail .endInList cs
  | fuel + 1, depth, first, cs =>
    match skipSpace cs with
    | [] => fail .endInList []
    | c :: rest =>
      if c = ']' then .ok ([], rest)
      else if first then element fuel depth (c :: rest)
      else if c = ',' then
        match skipSpace rest with
        | [] => fail .endInValue []
        | d :: rest =>
          if d = ']' then failAt .trailingComma (d :: rest) else element fuel depth (d :: rest)
      else failAt .expectedListCommaOrEnd (c :: rest)

-- An element and those after it.
def element : (fuel depth : Nat) → List Char → Except Fault (Read (List Value))
  | 0, _, cs => fail .endInList cs
  | fuel + 1, depth, cs => do
    let (v, rest) ← value fuel depth cs
    let (vs, rest) ← elements fuel depth false rest
    .ok (v :: vs, rest)

-- The entries of an object up to its closing brace, put to those read so far.
def members : (fuel depth : Nat) → (first : Bool) → List (String × Value) → List Char →
    Except Fault (Read (List (String × Value)))
  | 0, _, _, _, cs => fail .endInObject cs
  | fuel + 1, depth, first, entries, cs =>
    match skipSpace cs with
    | [] => fail .endInObject []
    | c :: rest =>
      if c = '}' then .ok (entries, rest)
      else if first then
        if c = '"' then member fuel depth entries rest else failAt .keyNotString (c :: rest)
      else if c = ',' then
        match skipSpace rest with
        | [] => fail .endInValue []
        | d :: rest =>
          if d = '"' then member fuel depth entries rest
          else if d = '}' then failAt .trailingComma (d :: rest)
          else failAt .keyNotString (d :: rest)
      else failAt .expectedObjectCommaOrEnd (c :: rest)

-- An entry after the quote that opens its key, and those after it.
def member : (fuel depth : Nat) → List (String × Value) → List Char →
    Except Fault (Read (List (String × Value)))
  | 0, _, _, cs => fail .endInObject cs
  | fuel + 1, depth, entries, cs => do
    let (key, rest) ← stringBody true .plain cs
    match skipSpace rest with
    | [] => fail .endInObject []
    | c :: rest =>
      if c = ':' then do
        let (v, rest) ← value fuel depth rest
        members fuel depth false (putEntry (String.ofList key) v entries) rest
      else failAt .expectedColon (c :: rest)

end

def anyValue (depth : Nat) (cs : List Char) : Except Fault (Read Value) :=
  value (3 * cs.length + 3) depth cs

-- Only blanks may follow the value of a whole text.
def finish {α} (r : Except Fault (Read α)) : Except Fault α := do
  let (a, rest) ← r
  match skipSpace rest with
  | [] => .ok a
  | rest => failAt .trailingCharacters rest

def parse (s : String) : Except Fault Value :=
  finish (anyValue depthLimit s.toList)

end Json
end AccessReport
