import AccessReport.Pdf.Filter

/-!
The numbered objects of a file.
-/

namespace AccessReport
namespace Pdf

variable {α : Type}

structure Store (α : Type) where
  -- one object under each number
  objects : List (ObjectId × Indirect α) := []
  -- no number in use is larger
  maxId   : Nat := 0
  trailer : Dictionary α := []

namespace Store

def ids (s : Store α) : List ObjectId :=
  s.objects.map (·.1)

def at? (s : Store α) (id : ObjectId) : Option (Indirect α) :=
  s.objects.lookup id

def insert (s : Store α) (id : ObjectId) (o : Indirect α) : Store α :=
  { s with objects := (id, o) :: s.objects.filter (·.1 ≠ id) }

def nextId (s : Store α) : ObjectId :=
  ⟨s.maxId + 1, 0⟩

-- Takes the next number without storing anything under it.
def reserve (s : Store α) : ObjectId × Store α :=
  (s.nextId, { s with maxId := s.maxId + 1 })

def add (s : Store α) (o : Indirect α) : ObjectId × Store α :=
  (s.nextId, { s with objects := (s.nextId, o) :: s.objects, maxId := s.maxId + 1 })

def sorted (s : Store α) : List (ObjectId × Indirect α) :=
  s.objects.mergeSort fun (a, _) (b, _) =>
    a.number < b.number || (a.number = b.number && a.generation ≤ b.generation)

-- How many references are followed one after the other.
def referenceLimit : Nat :=
  128

-- What a chain of references leads to.
def follow (s : Store α) : (limit : Nat) → Indirect α → Option (Indirect α)
  | limit, .object (.reference id) =>
    match limit with
    | 0 => none
    | limit + 1 => (s.at? id).bind (s.follow limit)
  | _, o => some o

def get? (s : Store α) (id : ObjectId) : Option (Indirect α) :=
  (s.at? id).bind (s.follow referenceLimit)

def dictionary? (s : Store α) (id : ObjectId) : Option (Dictionary α) :=
  (s.get? id).bind Indirect.dictionary?

end Store
end Pdf
end AccessReport
