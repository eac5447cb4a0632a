import AccessReport.Bytes

/-!
The values that a PDF file is made of.
-/

namespace AccessReport
namespace Pdf

structure ObjectId where
  number     : Nat
  generation : Nat
deriving DecidableEq, Repr, Inhabited

-- How a string is written.
inductive StringForm where
  | literal
  | hexadecimal
deriving DecidableEq, Repr

-- A value inside a file; `α` holds the numbers with a fraction.
inductive Object (α : Type) where
  | null
  | boolean (b : Bool)
  | integer (i : Int)
  | real (x : α)
  | name (n : Bytes)
  | string (bs : Bytes) (form : StringForm)
  | array (items : List (Object α))
  | dictionary (entries : List (Bytes × Object α))
  | reference (id : ObjectId)
deriving Inhabited

-- Entries in the order in which they were set first; keys are distinct.
abbrev Dictionary (α : Type) := List (Bytes × Object α)

variable {α : Type}

namespace Object

def named (s : String) : Object α :=
  .name (Bytes.ofText s)

def count (n : Nat) : Object α :=
  .integer n

def integer? : Object α → Option Int
  | integer i => some i
  | _ => none

def name? : Object α → Option Bytes
  | name n => some n
  | _ => none

def array? : Object α → Option (List (Object α))
  | array items => some items
  | _ => none

def dictionary? : Object α → Option (Dictionary α)
  | dictionary entries => some entries
  | _ => none

def reference? : Object α → Option ObjectId
  | reference id => some id
  | _ => none

end Object

namespace Dictionary

def find? (d : Dictionary α) (key : Bytes) : Option (Object α) :=
  d.lookup key

def get? (d : Dictionary α) (key : String) : Option (Object α) :=
  d.find? (Bytes.ofText key)

def contains (d : Dictionary α) (key : String) : Bool :=
  (d.get? key).isSome

-- Sets the value of a key, in its old place or behind all others.
def put (key : Bytes) (value : Object α) : Dictionary α → Dictionary α
  | [] => [(key, value)]
  | (k, v) :: d => if k = key then (k, value) :: d else (k, v) :: put key value d

def set (d : Dictionary α) (key : String) (value : Object α) : Dictionary α :=
  d.put (Bytes.ofText key) value

-- Removes a key; the last entry takes its place.
def erase (d : Dictionary α) (key : String) : Dictionary α :=
  let key := Bytes.ofText key
  match d.findIdx? (·.1 = key), d.getLast? with
  | some i, some last => if i + 1 < d.length then d.dropLast.set i last else d.dropLast
  | _, _ => d

def ofList (entries : List (String × Object α)) : Dictionary α :=
  entries.foldl (fun d (k, v) => d.set k v) []

def type? (d : Dictionary α) : Option Bytes :=
  match (d.get? "Type").bind Object.name? with
  | some n => some n
  | none => if d.contains "Linearized" then some (Bytes.ofText "Linearized") else none

def hasType (d : Dictionary α) (type : String) : Bool :=
  d.type? = some (Bytes.ofText type)

end Dictionary
end Pdf
end AccessReport
