/-!
Tables in which the last registration under a key counts.
-/

namespace AccessReport

structure Registry (β : Type) where
  entries : List (String × β) := []

namespace Registry

variable {β : Type}

def empty : Registry β :=
  {}

def register (r : Registry β) (key : String) (value : β) : Registry β :=
  ⟨(key, value) :: r.entries.filter (·.1 ≠ key)⟩

def find? (r : Registry β) (key : String) : Option β :=
  r.entries.lookup key

def contains (r : Registry β) (key : String) : Bool :=
  (r.find? key).isSome

def size (r : Registry β) : Nat :=
  r.entries.length

def keys (r : Registry β) : List String :=
  (r.entries.map (·.1)).mergeSort (· ≤ ·)

end Registry
end AccessReport
