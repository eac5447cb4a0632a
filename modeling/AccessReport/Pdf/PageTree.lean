import AccessReport.Pdf.Store

/-!
The pages of a file, and what is drawn on them.
-/

namespace AccessReport
namespace Pdf

variable {α : Type}

namespace Store

def catalog? (s : Store α) : Option (Dictionary α) :=
  ((s.trailer.get? "Root").bind Object.reference?).bind s.dictionary?

def kids (s : Store α) (id : ObjectId) : List (Object α) :=
  (((s.dictionary? id).bind (·.get? "Kids")).bind Object.array?).getD []

def treeDepthLimit : Nat :=
  256

-- The pages among lists of kids, the innermost list first; `steps` bounds how many kids are looked
-- at, so that a tree that contains itself comes to an end.
def pagesAmong (s : Store α) : (steps : Nat) → (pending : List (List (Object α))) → List ObjectId
  | 0, _ => []
  | steps + 1, pending =>
    match pending.dropWhile List.isEmpty with
    | (kid :: kids) :: outer =>
      let rest := if kids.isEmpty then outer else kids :: outer
      match kid.reference? with
      | none => pagesAmong s steps rest
      | some id =>
        match (s.dictionary? id).bind Dictionary.type? with
        | none => pagesAmong s steps rest
        | some type =>
          if type = Bytes.ofText "Page" then
            id :: pagesAmong s steps rest
          else if type = Bytes.ofText "Pages" && outer.length < treeDepthLimit then
            pagesAmong s steps (s.kids id :: rest)
          else
            pagesAmong s steps rest
    | _ => []

def pages (s : Store α) : List ObjectId :=
  match (s.catalog?.bind (·.get? "Pages")).bind Object.reference? with
  | some root => s.pagesAmong s.objects.length [s.kids root]
  | none => []

-- Follows the contents of a page, through references, to the streams that hold them.
def contentIds (s : Store α) : (limit : Nat) → Object α → List ObjectId
  | limit, .reference id =>
    match s.at? id with
    | none | some (.stream _) => [id]
    | some (.object o) =>
      match limit with
      | 0 => []
      | limit + 1 => s.contentIds limit o
  | _, .array items => items.filterMap Object.reference?
  | _, _ => []

variable [Coordinate α]

def pageContent (s : Store α) (page : ObjectId) : Bytes :=
  match (s.dictionary? page).bind (·.get? "Contents") with
  | none => []
  | some contents =>
    (s.contentIds (referenceLimit - 1) contents).flatMap fun id =>
      (((s.get? id).bind Indirect.stream?).map Stream.plainContent).getD []

def pageStrings (s : Store α) (page : ObjectId) : List Bytes :=
  shownStrings (operations (s.pageContent page) : List (Operation α))

end Store
end Pdf
end AccessReport
