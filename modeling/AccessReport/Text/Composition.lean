import AccessReport.Text.Composition.Table

/-!
The composed normal form: characters are taken apart, marks are put in the order of their classes,
and what can be put together again is.
-/

namespace AccessReport
namespace Composition

-- The class of a character, by which marks are ordered; characters that start a group have zero.
def combiningClass (c : Char) : Nat :=
  go classRuns c.toNat
where
  go : List (Nat × Nat × Nat) → Nat → Nat
    | [], _ => 0
    | (first, last, k) :: rs, n => if n < first then 0 else if n ≤ last then k else go rs n

-- The two parts of a whole, in a list ordered by wholes.
def partsOf : List (Nat × Nat × Nat) → Nat → Option (Nat × Nat)
  | [], _ => none
  | (whole, a, b) :: rs, n =>
    if n < whole then none else if n = whole then some (a, b) else partsOf rs n

def replacementOf : List (Nat × Nat) → Nat → Option Nat
  | [], _ => none
  | (c, d) :: rs, n => if n < c then none else if n = c then some d else replacementOf rs n

-- Syllables are numbered by leading consonant, vowel and trailing consonant.
def syllables : Nat := 0xAC00
def leads : Nat := 0x1100
def vowels : Nat := 0x1161
def trails : Nat := 0x11A7
def vowelCount : Nat := 21
def trailCount : Nat := 28
def leadCount : Nat := 19

def syllableParts (n : Nat) : List Char :=
  let i := n - syllables
  let lead := Char.ofNat (leads + i / (vowelCount * trailCount))
  let vowel := Char.ofNat (vowels + i % (vowelCount * trailCount) / trailCount)
  if i % trailCount = 0 then [lead, vowel]
  else [lead, vowel, Char.ofNat (trails + i % trailCount)]

-- Takes a character apart as far as possible; no chain of parts is longer than four steps.
def decomposeChar : Nat → Char → List Char
  | 0, c => [c]
  | fuel + 1, c =>
    let n := c.toNat
    if n < 0xC0 then [c]
    else if syllables ≤ n && n < syllables + leadCount * vowelCount * trailCount then syllableParts n
    else match partsOf pairs n with
      | some (a, b) => decomposeChar fuel (Char.ofNat a) ++ decomposeChar fuel (Char.ofNat b)
      | none => match partsOf brokenPairs n with
        | some (a, b) => decomposeChar fuel (Char.ofNat a) ++ decomposeChar fuel (Char.ofNat b)
        | none => match replacementOf replacements n with
          | some d => decomposeChar fuel (Char.ofNat d)
          | none => [c]

-- Puts a mark behind the marks before it that have no larger class.
def insertMark (m : Char × Nat) : List (Char × Nat) → List (Char × Nat)
  | [] => [m]
  | x :: xs => if m.2 < x.2 then m :: x :: xs else x :: insertMark m xs

-- Orders every group of marks by class; marks of one class stay in place.
def orderMarks (cs : List Char) : List (Char × Nat) :=
  go [] cs
where
  go (marks : List (Char × Nat)) : List Char → List (Char × Nat)
    | [] => marks
    | c :: cs =>
      let k := combiningClass c
      if k = 0 then marks ++ (c, 0) :: go [] cs
      else go (insertMark (c, k) marks) cs

def wholeOf : List (Nat × Nat × Nat) → Nat → Nat → Option Nat
  | [], _, _ => none
  | (whole, a, b) :: rs, m, n => if a = m && b = n then some whole else wholeOf rs m n

-- The character that two characters make together.
def composePair (a b : Char) : Option Char :=
  let m := a.toNat
  let n := b.toNat
  if leads ≤ m && m < leads + leadCount && vowels ≤ n && n < vowels + vowelCount then
    some (Char.ofNat (syllables + ((m - leads) * vowelCount + (n - vowels)) * trailCount))
  else if syllables ≤ m && m < syllables + leadCount * vowelCount * trailCount &&
      (m - syllables) % trailCount = 0 && trails < n && n < trails + trailCount then
    some (Char.ofNat (m + (n - trails)))
  else
    (wholeOf pairs m n).map Char.ofNat

-- Composes every character with the last starter unless one between them stands in the way.
-- `waiting` holds what follows the starter, last character first, and `blocked` its last class.
def compose (starter : Option Char) (waiting : List Char) (blocked : Nat) :
    List (Char × Nat) → List Char
  | [] => starter.toList ++ waiting.reverse
  | (c, k) :: cs =>
    match starter with
    | none =>
      if k = 0 then waiting.reverse ++ compose (some c) [] 0 cs
      else compose none (c :: waiting) k cs
    | some s =>
      match if waiting.isEmpty || blocked < k then composePair s c else none with
      | some whole => compose (some whole) waiting blocked cs
      | none =>
        if k = 0 then s :: (waiting.reverse ++ compose (some c) [] 0 cs)
        else compose (some s) (c :: waiting) k cs

-- The composed normal form. Characters before U+0300 neither move nor combine with each other.
def normalForm (cs : List Char) : List Char :=
  if cs.all (·.toNat < 0x300) then cs
  else compose none [] 0 (orderMarks (cs.flatMap (decomposeChar 5)))

end Composition
end AccessReport
