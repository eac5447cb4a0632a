import AccessReport.Content.DateText
import AccessReport.Content.Label
import AccessReport.Content.Tree

/-!
The normal form of content: labels for keys, one sentinel for everything absent, dates in one form.
-/

namespace AccessReport
namespace Content

-- Blank texts and the word `null` hold nothing.
def isAbsent (s : String) : Bool :=
  let cs := Text.trim s.toList
  cs.isEmpty || cs = ['n', 'u', 'l', 'l']

def normalizeScalar : Scalar → Normalized
  | .text s =>
    if isAbsent s then .sentinel else .scalar (.text ((DateText.reformat? s).getD s))
  | s => .scalar s

mutual

def normalize : Content → Normalized
  | null => .sentinel
  | scalar s => normalizeScalar s
  | sequence [] => .sentinel
  | sequence items => .sequence (normalizeItems items)
  | mapping [] => .sentinel
  | mapping entries => .mapping (normalizeEntries entries)

def normalizeItems : List Content → List Normalized
  | [] => []
  | t :: ts => normalize t :: normalizeItems ts

def normalizeEntries : List (String × Content) → List (String × Normalized)
  | [] => []
  | (k, t) :: es => (Label.humanize k, normalize t) :: normalizeEntries es

end

-- A service that sent nothing holds nothing.
def normalize? (content : Option Content) : Normalized :=
  content.elim .sentinel normalize

end Content
end AccessReport
