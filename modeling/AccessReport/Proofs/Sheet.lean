import AccessReport.Document.Merge
import AccessReport.Proofs.Unfolding

namespace AccessReport

open Pdf

variable {α : Type}

-- What a mark puts on a page: a line of text, or an object with all that it refers to.
inductive Shown (α : Type) where
  | text (font : String) (size x y : α) (codes : Bytes)
  | figure (matrix : Matrix α) (drawn : Option (Unfolding α))

namespace Shown

def codes? : Shown α → Option Bytes
  | text _ _ _ _ codes => some codes
  | figure .. => none

end Shown

-- A page as it is seen: its box, and what is on it in the order in which it was put there.
structure Sheet (α : Type) where
  box   : Option (Object α)
  shown : List (Shown α)

namespace Sheet

def texts (s : Sheet α) : List Bytes :=
  s.shown.filterMap Shown.codes?

-- Nothing is taken away: what is new is behind what is on a page, or on pages behind these.
inductive Adds : List (Sheet α) → List (Sheet α) → Prop
  | nil (l) : Adds [] l
  | cons {s t l l'} : s.box = t.box → s.shown <+: t.shown → Adds l l' → Adds (s :: l) (t :: l')

namespace Adds

variable {l l' l'' : List (Sheet α)}

theorem refl (l : List (Sheet α)) : Adds l l := by
  induction l with
  | nil => exact .nil _
  | cons s l ih => exact .cons rfl List.prefix_rfl ih

theorem trans (h : Adds l l') (h' : Adds l' l'') : Adds l l'' := by
  induction h generalizing l'' with
  | nil => exact .nil _
  | cons hb hs _ ih =>
    cases h' with
    | cons hb' hs' h' => exact .cons (hb.trans hb') (hs.trans hs') (ih h')

theorem append_left (h : Adds l l') (front : List (Sheet α)) : Adds (front ++ l) (front ++ l') := by
  induction front with
  | nil => exact h
  | cons s front ih => exact .cons rfl List.prefix_rfl ih

theorem length_le (h : Adds l l') : l.length ≤ l'.length := by
  induction h with
  | nil => exact Nat.zero_le _
  | cons _ _ _ ih => exact Nat.succ_le_succ ih

end Adds
end Sheet

variable [Coordinate α]

namespace Pdf

def Mark.shown (s : Store α) (figures : Dictionary α) : Mark α → Shown α
  | text font size x y codes => .text font size x y codes
  | figure name matrix =>
    .figure matrix (((figures.get? name).bind Object.reference?).map s.unfolding)

-- The objects that a page may draw.
def Dictionary.figures (page : Dictionary α) : Dictionary α :=
  ((((page.get? "Resources").bind Object.dictionary?).bind (get? · "XObject")).bind
    Object.dictionary?).getD []

namespace Store

def drawing (s : Store α) (content : ObjectId) : List (Mark α) :=
  match s.at? content with
  | some (.stream ⟨_, .drawing marks, _⟩) => marks
  | _ => []

-- What is seen of a stored page.
def sheet (s : Store α) (page : ObjectId) : Sheet α :=
  let entries := ((s.at? page).bind Indirect.dictionary?).getD []
  let marks := (((entries.get? "Contents").bind Object.reference?).map s.drawing).getD []
  ⟨entries.get? "MediaBox", marks.map (Mark.shown s entries.figures)⟩

end Store
end Pdf

namespace Document

def mediaBox (page : Dimensions α) : Object α :=
  .array [.integer 0, .integer 0, .real page.width, .real page.height]

-- Each object that is drawn is found under its name, and lies in the store with all that it
-- refers to.
def Bound (s : Store α) (figures : Dictionary α) (marks : List (Mark α)) : Prop :=
  ∀ name matrix, .figure name matrix ∈ marks →
    ∃ id, Bytes.ofText name ≠ parentKey ∧ figures.get? name = some (.reference id) ∧ s.Whole id

-- The objects that make up a finished page.
structure PageRecord (α : Type) where
  entries : Dictionary α
  content : ObjectId
  stream  : Stream α
  marks   : List (Mark α)
  size    : Dimensions α

structure PageRecord.IsAt (p : PageRecord α) (s : Store α) (id : ObjectId) : Prop where
  page     : s.at? id = some (.object (.dictionary p.entries))
  type     : p.entries.get? "Type" = some (.named "Page")
  parent   : p.entries.get? "Parent" = some (.reference treeId)
  box      : p.entries.get? "MediaBox" = some (mediaBox p.size)
  contents : p.entries.get? "Contents" = some (.reference p.content)
  stream   : s.at? p.content = some (.stream p.stream)
  drawing  : p.stream.body = .drawing p.marks
  bound    : Bound s p.entries.figures p.marks

-- The same without a word about what is drawn.
structure PageRecord.LiesIn (p : PageRecord α) (s : Store α) (id : ObjectId) : Prop where
  page     : s.at? id = some (.object (.dictionary p.entries))
  type     : p.entries.get? "Type" = some (.named "Page")
  parent   : p.entries.get? "Parent" = some (.reference treeId)
  box      : p.entries.get? "MediaBox" = some (mediaBox p.size)
  contents : p.entries.get? "Contents" = some (.reference p.content)
  stream   : s.at? p.content = some (.stream p.stream)
  drawing  : p.stream.body = .drawing p.marks

def HasPage (s : Store α) (id : ObjectId) : Prop :=
  ∃ p : PageRecord α, p.IsAt s id

variable {s s' : Store α} {figures : Dictionary α} {marks : List (Mark α)} {id : ObjectId}

namespace Bound

theorem keeps (h : Bound s figures marks) (hk : s.Keeps s') : Bound s' figures marks := by
  intro name matrix hm
  obtain ⟨id, hn, hf, hw⟩ := h name matrix hm
  exact ⟨id, hn, hf, hw.keeps hk⟩

-- What is drawn stays what it was.
theorem shown_eq (h : Bound s figures marks) (hk : s.Keeps s') :
    marks.map (Mark.shown s' figures) = marks.map (Mark.shown s figures) := by
  apply List.map_congr_left
  intro m hm
  cases m with
  | text => rfl
  | figure name matrix =>
    obtain ⟨id, -, hf, hw⟩ := h name matrix hm
    simp [Mark.shown, hf, Object.reference?, hw.unfolding_eq hk]

end Bound

namespace PageRecord.LiesIn

variable {p : PageRecord α}

omit [Coordinate α] in
theorem keeps (h : p.LiesIn s id) (hk : s.Keeps s') : p.LiesIn s' id :=
  { h with
    page   := hk _ _ h.page
    stream := hk _ _ h.stream }

omit [Coordinate α] in
theorem drawing_eq (h : p.LiesIn s id) : s.drawing p.content = p.marks := by
  have hb := h.drawing
  obtain ⟨_, _, ⟨_, _, _⟩, _, _⟩ := p
  simp_all [Store.drawing, h.stream]

end PageRecord.LiesIn

namespace PageRecord.IsAt

variable {p : PageRecord α}

theorem liesIn (h : p.IsAt s id) : p.LiesIn s id :=
  { h with }

theorem keeps (h : p.IsAt s id) (hk : s.Keeps s') : p.IsAt s' id :=
  { h.liesIn.keeps hk with bound := h.bound.keeps hk }

theorem drawing_eq (h : p.IsAt s id) : s.drawing p.content = p.marks :=
  h.liesIn.drawing_eq

theorem sheet_eq (h : p.IsAt s id) :
    s.sheet id = ⟨some (mediaBox p.size), p.marks.map (Mark.shown s p.entries.figures)⟩ := by
  simp [Store.sheet, h.page, Indirect.dictionary?, Indirect.object?, Object.dictionary?, h.box,
    h.contents, Object.reference?, h.drawing_eq]

end PageRecord.IsAt

namespace HasPage

theorem keeps (h : HasPage s id) (hk : s.Keeps s') : HasPage s' id := by
  obtain ⟨p, hp⟩ := h
  exact ⟨p, hp.keeps hk⟩

theorem sheet_eq (h : HasPage s id) (hk : s.Keeps s') : s'.sheet id = s.sheet id := by
  obtain ⟨p, hp⟩ := h
  rw [hp.sheet_eq, (hp.keeps hk).sheet_eq, hp.bound.shown_eq hk]

end HasPage

end Document
end AccessReport
