import AccessReport.Json.Reader

/-!
What a service holds on a person, as a tree: as the service sent it, and in its normal form, in
which nothing is absent.
-/

namespace AccessReport

inductive Scalar where
  | text (s : String)
  | number (n : Json.Number)
  | boolean (b : Bool)
deriving Repr, BEq

namespace Scalar

def display : Scalar → String
  | text s => s
  | number n => n.text
  | boolean b => if b then "true" else "false"

def toJson : Scalar → Json.Value
  | text s => .string s
  | number n => .number n
  | boolean b => .bool b

end Scalar

-- Entries keep the order in which the service sent them.
inductive Content where
  | null
  | scalar (s : Scalar)
  | sequence (items : List Content)
  | mapping (entries : List (String × Content))

namespace Content

mutual

def ofJson : Json.Value → Content
  | .null => null
  | .bool b => scalar (.boolean b)
  | .number n => scalar (.number n)
  | .string s => scalar (.text s)
  | .array items => sequence (ofItems items)
  | .object entries => mapping (ofEntries entries)

def ofItems : List Json.Value → List Content
  | [] => []
  | v :: vs => ofJson v :: ofItems vs

def ofEntries : List (String × Json.Value) → List (String × Content)
  | [] => []
  | (k, v) :: es => (k, ofJson v) :: ofEntries es

end

def parse (s : String) : Except Json.Fault Content :=
  (Json.parse s).map ofJson

end Content

-- A content tree in normal form; there is no absent value.
inductive Normalized where
  | scalar (s : Scalar)
  | sequence (items : List Normalized)
  | mapping (entries : List (String × Normalized))

namespace Normalized

-- What stands for everything that is absent or empty.
def noDataHeld : String :=
  "No data held"

def sentinel : Normalized :=
  scalar (.text noDataHeld)

def isSentinel : Normalized → Bool
  | scalar (.text s) => s = noDataHeld
  | _ => false

def isScalar : Normalized → Bool
  | scalar _ => true
  | _ => false

def get? : Normalized → String → Option Normalized
  | mapping entries, key => entries.lookup key
  | _, _ => none

mutual

-- The tree as JSON; of entries with one key the last one counts, in the place of the first.
def toJson : Normalized → Json.Value
  | scalar s => s.toJson
  | sequence items => .array (itemsToJson items)
  | mapping entries => .object (entriesToJson [] entries)

def itemsToJson : List Normalized → List Json.Value
  | [] => []
  | t :: ts => toJson t :: itemsToJson ts

def entriesToJson (before : List (String × Json.Value)) :
    List (String × Normalized) → List (String × Json.Value)
  | [] => before
  | (k, t) :: es => entriesToJson (Json.putEntry k (toJson t) before) es

end

mutual

def toContent : Normalized → Content
  | scalar s => .scalar s
  | sequence items => .sequence (itemsToContent items)
  | mapping entries => .mapping (entriesToContent entries)

def itemsToContent : List Normalized → List Content
  | [] => []
  | t :: ts => toContent t :: itemsToContent ts

def entriesToContent : List (String × Normalized) → List (String × Content)
  | [] => []
  | (k, t) :: es => (k, toContent t) :: entriesToContent es

end

mutual

def same : Normalized → Normalized → Bool
  | scalar s, scalar t => s == t
  | sequence ss, sequence ts => sameItems ss ts
  | mapping ds, mapping es => sameEntries ds es
  | _, _ => false

def sameItems : List Normalized → List Normalized → Bool
  | [], [] => true
  | s :: ss, t :: ts => same s t && sameItems ss ts
  | _, _ => false

def sameEntries : List (String × Normalized) → List (String × Normalized) → Bool
  | [], [] => true
  | (k, s) :: ds, (l, t) :: es => k == l && same s t && sameEntries ds es
  | _, _ => false

end
end Normalized
end AccessReport
