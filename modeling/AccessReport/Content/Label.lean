import AccessReport.Text.Blank
import AccessReport.Text.Case
import AccessReport.Text.Replace

/-!
Labels: the keys of a service in the form of a sentence. A key is cut into words where its letters
change case and at separators.
-/

namespace AccessReport
namespace Label

def isLower (c : Char) : Bool :=
  'a' ≤ c && c ≤ 'z'

def isUpper (c : Char) : Bool :=
  'A' ≤ c && c ≤ 'Z'

def isDigit (c : Char) : Bool :=
  '0' ≤ c && c ≤ '9'

def isSeparator (c : Char) : Bool :=
  c = '_' || c = '-' || c = '.' || Text.isBlank c

-- A small letter or a digit and a capital after it, with a space between them.
def camel : List Char → Option (List Char × List Char)
  | a :: b :: cs => if (isLower a || isDigit a) && isUpper b then some ([a, ' ', b], cs) else none
  | _ => none

-- A capital and a small letter.
def capitalized : List Char → Option (List Char × List Char)
  | a :: b :: cs => if isUpper a && isLower b then some ([a, b], cs) else none
  | _ => none

-- Capitals and a word after them, with a space between them.
def acronym (cs : List Char) : Option (List Char × List Char) :=
  (Text.greedy isUpper capitalized cs).map fun (run, word, rest) => (run ++ ' ' :: word, rest)

-- A space in the place of separators.
def separators (cs : List Char) : Option (List Char × List Char) :=
  (Text.greedy isSeparator some cs).map fun (_, rest) => ([' '], rest)

def spaced (key : List Char) : List Char :=
  Text.replaceAll separators (Text.replaceAll acronym (Text.replaceAll camel key))

-- The words in lower case with a capital in front; a key without words stays as it is.
def humanize (key : String) : String :=
  match Case.lower (Text.trim (spaced key.toList)) with
  | [] => key
  | cs => String.ofList (Case.capitalize cs)

end Label
end AccessReport
