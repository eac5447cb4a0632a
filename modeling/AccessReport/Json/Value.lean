import AccessReport.Number.Double

/-!
JSON values. Whole numbers of sixty-four bits are kept exactly; objects keep the order of their
entries.
-/

namespace AccessReport
namespace Json

inductive Number where
  | natural (n : Nat)
  -- the number `-n`
  | negative (n : Nat)
  | float (x : Float)
deriving Repr, BEq

def Number.text : Number → String
  | natural n => natText n
  | negative n => "-" ++ natText n
  | float x => Double.text x

inductive Value where
  | null
  | bool (b : Bool)
  | number (n : Number)
  | string (s : String)
  | array (items : List Value)
  | object (entries : List (String × Value))
deriving Repr

-- Entries in which `key` has `value`: in its old place if it was there, at the end otherwise.
def putEntry {α} (key : String) (value : α) : List (String × α) → List (String × α)
  | [] => [(key, value)]
  | (k, v) :: es => if k = key then (key, value) :: es else (k, v) :: putEntry key value es

theorem lookup_putEntry {α} (key k : String) (value : α) (es : List (String × α)) :
    (putEntry key value es).lookup k = if k = key then some value else es.lookup k := by
  induction es with
  | nil => rw [putEntry, List.lookup_cons]; split <;> simp_all
  | cons e es ih =>
    obtain ⟨k', v⟩ := e
    rw [putEntry]
    split
    case isTrue h => subst h; simp only [List.lookup_cons]; split <;> simp_all
    case isFalse h => simp only [List.lookup_cons, ih]; split <;> simp_all

end Json
end AccessReport
