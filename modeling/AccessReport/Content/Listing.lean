import AccessReport.Content.Normal

/-!
A content tree as lines of text. Every entry and every item has a line of its own, indented by its
depth; what is inside it follows one level deeper.
-/

namespace AccessReport
namespace Normalized

def pad (depth : Nat) : String :=
  String.ofList (List.replicate (2 * depth) ' ')

def entryLine (depth : Nat) (key text : String) : String :=
  pad depth ++ key ++ ": " ++ text

def itemLine (depth : Nat) (text : String) : String :=
  pad depth ++ "- " ++ text

mutual

def innerLines (depth : Nat) : Normalized → List String
  | scalar _ => []
  | sequence items => itemLines depth items
  | mapping entries => entryLines depth entries

def itemLines (depth : Nat) : List Normalized → List String
  | [] => []
  | scalar s :: ts => itemLine depth (s.display ++ " ") :: itemLines depth ts
  | t :: ts => itemLine depth "" :: (innerLines (depth + 1) t ++ itemLines depth ts)

def entryLines (depth : Nat) : List (String × Normalized) → List String
  | [] => []
  | (k, scalar s) :: es => entryLine depth k s.display :: entryLines depth es
  | (k, t) :: es => entryLine depth k "" :: (innerLines (depth + 1) t ++ entryLines depth es)

end

def listingLines : Normalized → List String
  | scalar s => [s.display]
  | t => innerLines 0 t

-- The lines of a tree, a line feed between them.
def listing (t : Normalized) : String :=
  "\n".intercalate t.listingLines

end Normalized

def Content.preview (c : Content) : String :=
  c.normalize.listing

end AccessReport
