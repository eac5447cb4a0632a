import AccessReport.Pdf.PageTree

/-!
Copying objects from one file into another, under new numbers. What an object refers to is copied
with it, each object once; the way up to a parent is not followed.
-/

namespace AccessReport
namespace Pdf

variable {α : Type}

-- The key under which an object names the object above it.
def parentKey : Bytes :=
  Bytes.ofText "Parent"

namespace Object

mutual

def references : Object α → List ObjectId
  | reference id => [id]
  | array items => itemReferences items
  | dictionary entries => entryReferences entries
  | _ => []

def itemReferences : List (Object α) → List ObjectId
  | [] => []
  | o :: os => references o ++ itemReferences os

def entryReferences : List (Bytes × Object α) → List ObjectId
  | [] => []
  | (key, o) :: es => if key = parentKey then entryReferences es else references o ++ entryReferences es

end

mutual

-- The object with new numbers in its references, and without the entries for parents.
def renumber (f : ObjectId → ObjectId) : Object α → Object α
  | reference id => reference (f id)
  | array items => array (renumberItems f items)
  | dictionary entries => dictionary (renumberEntries f entries)
  | o => o

def renumberItems (f : ObjectId → ObjectId) : List (Object α) → List (Object α)
  | [] => []
  | o :: os => renumber f o :: renumberItems f os

def renumberEntries (f : ObjectId → ObjectId) :
    List (Bytes × Object α) → List (Bytes × Object α)
  | [] => []
  | (key, o) :: es =>
    if key = parentKey then renumberEntries f es
    else (key, renumber f o) :: renumberEntries f es

end
end Object

namespace Indirect

def references : Indirect α → List ObjectId
  | object o => o.references
  | stream s => Object.entryReferences s.entries

-- A copied stream states its length.
def renumber [Coordinate α] (f : ObjectId → ObjectId) : Indirect α → Indirect α
  | object o => object (o.renumber f)
  | stream s => stream (Stream.make (Object.renumberEntries f s.entries) s.body s.compressible)

end Indirect

-- Objects of the source with their numbers in the target.
abbrev Numbering := List (ObjectId × ObjectId)

namespace Numbering

def ids (n : Numbering) : List ObjectId :=
  n.map (·.1)

def apply (n : Numbering) (id : ObjectId) : ObjectId :=
  (n.lookup id).getD id

end Numbering

-- What is copied for an object of the source: nothing takes the place of a missing one.
def sourceObject (source : Store α) (id : ObjectId) : Indirect α :=
  (source.get? id).getD (.object .null)

-- How many objects of the source were not seen yet.
def unseen (source : Store α) (seen : List ObjectId) : Nat :=
  source.ids.countP (· ∉ seen)

theorem unseen_cons_le (source : Store α) (seen : List ObjectId) (id : ObjectId) :
    unseen source (id :: seen) ≤ unseen source seen :=
  List.countP_mono_left (by simp_all)

theorem unseen_cons_lt {source : Store α} {seen : List ObjectId} {id : ObjectId}
    (h : id ∉ seen) (hs : id ∈ source.ids) : unseen source (id :: seen) < unseen source seen := by
  unfold unseen
  generalize source.ids = is at hs
  induction is with
  | nil => simp at hs
  | cons i is ih =>
    have hle : is.countP (· ∉ id :: seen) ≤ is.countP (· ∉ seen) :=
      List.countP_mono_left (by simp_all)
    rw [List.countP_cons, List.countP_cons]
    by_cases hi : i = id
    · have h₁ : decide (i ∉ id :: seen) = false := by simp [hi]
      have h₂ : decide (i ∉ seen) = true := by simp [hi, h]
      rw [h₁, h₂, if_neg Bool.false_ne_true, if_pos rfl]
      omega
    · have h₁ : decide (i ∉ id :: seen) = decide (i ∉ seen) := by simp [hi]
      have := ih ((List.mem_cons.1 hs).resolve_left (Ne.symm hi))
      rw [h₁]
      omega

theorem mem_ids_of_get? {source : Store α} {id : ObjectId} {o : Indirect α}
    (h : source.get? id = some o) : id ∈ source.ids := by
  unfold Store.get? Store.at? at h
  unfold Store.ids
  generalize source.objects = os at h
  induction os with
  | nil => simp at h
  | cons e es ih =>
    obtain ⟨i, x⟩ := e
    by_cases hi : id = i
    · simp [hi]
    · have hb : (id == i) = false := beq_eq_false_iff_ne.2 hi
      rw [List.lookup_cons, hb] at h
      exact List.mem_cons_of_mem _ (ih h)

-- The objects that are reached from those that are pending, newest first and in front of those that
-- were seen before.
def reach (source : Store α) (seen pending : List ObjectId) : List ObjectId :=
  match pending with
  | [] => seen
  | id :: rest =>
    if _hseen : id ∈ seen then reach source seen rest
    else
      match _hget : source.get? id with
      | none => reach source (id :: seen) rest
      | some o => reach source (id :: seen) (o.references ++ rest)
termination_by (unseen source seen, pending.length)
decreasing_by
  · exact .right _ (Nat.lt_succ_self _)
  · rcases Nat.lt_or_eq_of_le (unseen_cons_le source seen id) with h | h
    · exact .left _ _ h
    · rw [h]
      exact .right _ (Nat.lt_succ_self _)
  · exact .left _ _ (unseen_cons_lt _hseen (mem_ids_of_get? _hget))

-- A copy in progress: the numbers that were given out, and the file that is copied into.
structure Copier (α : Type) where
  numbering : Numbering := []
  target    : Store α

namespace Copier

-- Numbers for newly reached objects, in the order in which they are reached.
def numbered (next : Nat) (ids : List ObjectId) : Numbering :=
  ids.zipIdx.map fun (id, i) => (id, ⟨next + i, 0⟩)

variable [Coordinate α]

-- Copies everything that is reached from some references.
def copyAll (source : Store α) (c : Copier α) (ids : List ObjectId) : Copier α :=
  let seen := c.numbering.ids.reverse
  let reached := (reach source seen ids).reverse.drop c.numbering.length
  let added := numbered (c.target.maxId + 1) reached
  let numbering := c.numbering ++ added
  let copies := added.map fun (id, new) =>
    (new, (sourceObject source id).renumber numbering.apply)
  ⟨numbering, { c.target with
    objects := copies.reverse ++ c.target.objects
    maxId := c.target.maxId + added.length }⟩

-- Copies the object behind a reference, and says where it is.
def copyReference (source : Store α) (c : Copier α) (id : ObjectId) : ObjectId × Copier α :=
  let c := c.copyAll source [id]
  (c.numbering.apply id, c)

-- Copies what an object refers to, and answers the object with its new references.
def copyObject (source : Store α) (c : Copier α) (o : Indirect α) : Indirect α × Copier α :=
  let c := c.copyAll source o.references
  (o.renumber c.numbering.apply, c)

def count (c : Copier α) : Nat :=
  c.numbering.length

end Copier
end Pdf
end AccessReport
