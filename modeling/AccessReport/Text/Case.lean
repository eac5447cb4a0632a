import AccessReport.Text.Case.Table

/-!
Lower and upper case of text. A capital sigma at the end of a word becomes a final sigma.
-/

namespace AccessReport
namespace Case

-- The run that holds a character, in a list ordered by first character.
def Run.find : List Run → Nat → Option Run
  | [], _ => none
  | r :: rs, n =>
    if n < r.first then none
    else if n ≤ r.last then
      if (n - r.first) % r.step = 0 then some r else find rs n
    else find rs n

def Run.apply (r : Run) (n : Nat) : Char :=
  Char.ofNat ((n : Int) + r.shift).toNat

-- Whether a character lies in one of the ranges, ordered by first character.
def inRanges : List (Nat × Nat) → Nat → Bool
  | [], _ => false
  | (first, last) :: rs, n =>
    if n < first then false else if n ≤ last then true else inRanges rs n

def isCased (c : Char) : Bool :=
  inRanges casedRanges c.toNat

def isIgnorable (c : Char) : Bool :=
  inRanges ignorableRanges c.toNat

def lowerChar (c : Char) : List Char :=
  if c = 'İ' then ['i', '\u0307']
  else match Run.find lowerRuns c.toNat with
    | some r => [r.apply c.toNat]
    | none => [c]

def upperChar (c : Char) : List Char :=
  match upperStrings.lookup c.toNat with
  | some ns => ns.map Char.ofNat
  | none => match Run.find upperRuns c.toNat with
    | some r => [r.apply c.toNat]
    | none => [c]

-- A cased character comes next, ignorable ones passed over.
def meetsCased (cs : List Char) : Bool :=
  match cs.dropWhile isIgnorable with
  | [] => false
  | c :: _ => isCased c

def lower (cs : List Char) : List Char :=
  go [] cs
where
  -- `before` holds what was passed, last character first
  go (before : List Char) : List Char → List Char
    | [] => []
    | c :: cs =>
      let mapped :=
        if c = 'Σ' then
          if meetsCased before && !meetsCased cs then ['ς'] else ['σ']
        else
          lowerChar c
      mapped ++ go (c :: before) cs

-- The text with the upper case of its first character in front.
def capitalize : List Char → List Char
  | [] => []
  | c :: cs => upperChar c ++ cs

end Case
end AccessReport
