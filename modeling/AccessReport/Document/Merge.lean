import AccessReport.Document.Page

/-!
Joining documents, and finishing them.
-/

namespace AccessReport

open Coordinate Pdf

namespace Document

variable {α : Type} [Coordinate α]

-- Makes a copied page a page of this document.
def adopt (s : Store α) (id : ObjectId) : Store α :=
  match s.at? id with
  | some (.object (.dictionary d)) =>
    s.insert id (.object (.dictionary (Dictionary.set d "Parent" (.reference treeId))))
  | _ => s

-- Copies the pages of another document in front of the page at `index`, or behind the last one, and
-- says how many there were.
def merge (d other : Document α) (index : Nat) : Nat × Document α :=
  let d := d.closePage
  let other := other.closePage
  let copier := Copier.copyAll other.store ⟨[], d.store⟩ other.pageIds
  let copied := other.pageIds.map copier.numbering.apply
  let index := min index d.pageIds.length
  (copied.length, { d with
    store := copied.foldl adopt copier.target
    pageIds := d.pageIds.take index ++ copied ++ d.pageIds.drop index })

def join (layout : Options α) (parts : List (Document α)) : Document α :=
  parts.foldl (fun d part => (d.merge part d.pageCount).2) (empty layout)

def finish (d : Document α) : Store α :=
  let d := d.closePage
  let store := d.store.insert treeId (.object (tree d.pageIds))
  if d.layout.compress then store.compress else store

def bytes (d : Document α) : Bytes :=
  d.finish.save

-- The lines that are shown on each page, the open one included.
def pageTexts (d : Document α) : List (List String) :=
  let finished := d.pageIds.map fun id => (d.store.pageStrings id).map Bytes.toText
  match d.current with
  | none => finished
  | some page =>
    let strings := shownStrings (page.marks.flatMap Mark.operations)
    finished ++ [strings.map Bytes.toText]

def describe (d : Document α) : String :=
  let page := d.layout.page
  "RenderedDocument \x7b pages: " ++ natText d.pageCount ++
    ", page_size: Dimensions \x7b width: " ++ inspect page.width ++ ", height: " ++
    inspect page.height ++ " \x7d \x7d"

end Document
end AccessReport
