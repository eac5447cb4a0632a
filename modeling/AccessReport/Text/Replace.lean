/-!
Parts of a text put in the place of others, from left to right. What is put in is not looked at
again, and what was found does not overlap.
-/

namespace AccessReport
namespace Text

-- As many characters with `p` as leave something that `behind` finds, but at least one.
def greedy {β : Type} (p : Char → Bool) (behind : List Char → Option β) :
    List Char → Option (List Char × β)
  | [] => none
  | c :: cs =>
    if p c then
      match greedy p behind cs with
      | some (run, found) => some (c :: run, found)
      | none => (behind cs).map fun found => ([c], found)
    else none

-- Replaces all that `find` finds: it answers what stands for the beginning of a text, and the rest.
def replaceAll (find : List Char → Option (List Char × List Char)) (cs : List Char) : List Char :=
  go 0 cs
where
  -- `passed` counts the characters to come that were replaced already
  go : (passed : Nat) → List Char → List Char
    | _, [] => []
    | passed + 1, _ :: cs => go passed cs
    | 0, c :: cs =>
      match find (c :: cs) with
      | some (new, rest) => new ++ go (cs.length - rest.length) cs
      | none => c :: go 0 cs

end Text
end AccessReport
