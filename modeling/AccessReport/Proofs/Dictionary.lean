import AccessReport.Pdf.Copier

namespace AccessReport
namespace Pdf

variable {α : Type}

namespace Dictionary

@[simp]
theorem find?_nil (k : Bytes) : find? ([] : Dictionary α) k = none :=
  rfl

theorem find?_cons (d : Dictionary α) (key k : Bytes) (v : Object α) :
    find? ((key, v) :: d) k = if k = key then some v else d.find? k := by
  by_cases h : k = key
  · simp [find?, h]
  · have hb : (k == key) = false := beq_eq_false_iff_ne.2 h
    simp [find?, List.lookup_cons, hb, h]

theorem find?_put (d : Dictionary α) (key k : Bytes) (v : Object α) :
    find? (put key v d) k = if k = key then some v else d.find? k := by
  induction d with
  | nil => simp [put, find?_cons]
  | cons e d ih =>
    obtain ⟨k', v'⟩ := e
    by_cases hk' : k' = key
    · simp only [put, hk', if_true, find?_cons]
      split <;> rfl
    · simp only [put, hk', if_false, find?_cons, ih]
      split <;> simp_all

theorem get?_set (d : Dictionary α) (key k : String) (v : Object α) :
    (d.set key v).get? k = if Bytes.ofText k = Bytes.ofText key then some v else d.get? k :=
  find?_put d _ _ v

@[simp]
theorem get?_set_self (d : Dictionary α) (key : String) (v : Object α) :
    (d.set key v).get? key = some v := by
  simp [get?_set]

theorem get?_set_of_ne (d : Dictionary α) {key k : String} (v : Object α)
    (h : Bytes.ofText k ≠ Bytes.ofText key) : (d.set key v).get? k = d.get? k := by
  simp [get?_set, h]

-- Setting a key twice keeps its place, so only the second value is left.
theorem set_set (d : Dictionary α) (key : String) (v w : Object α) :
    (d.set key v).set key w = d.set key w := by
  unfold set
  induction d with
  | nil => simp [put]
  | cons e d ih =>
    obtain ⟨k, _⟩ := e
    by_cases h : k = Bytes.ofText key <;> simp_all [put]

@[simp]
theorem get?_nil (k : String) : get? ([] : Dictionary α) k = none :=
  find?_nil _

end Dictionary

namespace Object

-- The entries for parents are left out of a copy, all others are found under their old keys.
theorem find?_renumberEntries (f : ObjectId → ObjectId) (d : Dictionary α) (k : Bytes) :
    Dictionary.find? (renumberEntries f d) k =
      if k = parentKey then none else (d.find? k).map (renumber f) := by
  induction d with
  | nil => simp [renumberEntries]
  | cons e d ih =>
    obtain ⟨key, o⟩ := e
    by_cases hp : key = parentKey
    · simp only [renumberEntries, hp, if_true, ih, Dictionary.find?_cons]
      split <;> simp_all
    · simp only [renumberEntries, hp, if_false, ih, Dictionary.find?_cons]
      split <;> simp_all

theorem get?_renumberEntries (f : ObjectId → ObjectId) (d : Dictionary α) {k : String}
    (h : Bytes.ofText k ≠ parentKey) :
    Dictionary.get? (renumberEntries f d) k = (d.get? k).map (renumber f) := by
  simp [Dictionary.get?, find?_renumberEntries, h]

theorem renumberEntries_set (f : ObjectId → ObjectId) (d : Dictionary α) {k : String}
    (v : Object α) (h : Bytes.ofText k ≠ parentKey) :
    renumberEntries f (d.set k v) = Dictionary.set (renumberEntries f d) k (v.renumber f) := by
  unfold Dictionary.set
  induction d with
  | nil => simp [Dictionary.put, renumberEntries, h]
  | cons e d ih =>
    obtain ⟨key, o⟩ := e
    by_cases hk : key = Bytes.ofText k
    · simp [Dictionary.put, renumberEntries, hk, h]
    · by_cases hp : key = parentKey <;> simp_all [Dictionary.put, renumberEntries]

mutual

theorem renumber_renumber (f g : ObjectId → ObjectId) :
    (o : Object α) → (o.renumber f).renumber g = o.renumber (g ∘ f)
  | null | boolean _ | integer _ | real _ | name _ | string .. => by simp [renumber]
  | reference _ => by simp [renumber]
  | array items => by simp [renumber, renumberItems_renumberItems f g items]
  | dictionary entries => by simp [renumber, renumberEntries_renumberEntries f g entries]

theorem renumberItems_renumberItems (f g : ObjectId → ObjectId) :
    (items : List (Object α)) →
      renumberItems g (renumberItems f items) = renumberItems (g ∘ f) items
  | [] => by simp [renumberItems]
  | o :: os => by
    simp [renumberItems, renumber_renumber f g o, renumberItems_renumberItems f g os]

theorem renumberEntries_renumberEntries (f g : ObjectId → ObjectId) :
    (entries : List (Bytes × Object α)) →
      renumberEntries g (renumberEntries f entries) = renumberEntries (g ∘ f) entries
  | [] => by simp [renumberEntries]
  | (key, o) :: es => by
    have hes := renumberEntries_renumberEntries f g es
    by_cases h : key = parentKey
    · simp [renumberEntries, h, hes]
    · simp [renumberEntries, h, hes, renumber_renumber f g o]

end

mutual

-- A copy depends on the new numbers of the references in it only.
theorem renumber_congr {f g : ObjectId → ObjectId} :
    (o : Object α) → (∀ r ∈ o.references, f r = g r) → o.renumber f = o.renumber g
  | null, _ | boolean _, _ | integer _, _ | real _, _ | name _, _ | string .., _ => by
    simp [renumber]
  | reference id, h => by simp [renumber, h id (by simp [references])]
  | array items, h => by
    simp [renumber, renumberItems_congr items (by simpa [references] using h)]
  | dictionary entries, h => by
    simp [renumber, renumberEntries_congr entries (by simpa [references] using h)]

theorem renumberItems_congr {f g : ObjectId → ObjectId} :
    (items : List (Object α)) → (∀ r ∈ itemReferences items, f r = g r) →
      renumberItems f items = renumberItems g items
  | [], _ => by simp [renumberItems]
  | o :: os, h => by
    have ho := renumber_congr o fun r hr => h r (by simp [itemReferences, hr])
    have hos := renumberItems_congr os fun r hr => h r (by simp [itemReferences, hr])
    simp [renumberItems, ho, hos]

theorem renumberEntries_congr {f g : ObjectId → ObjectId} :
    (entries : List (Bytes × Object α)) → (∀ r ∈ entryReferences entries, f r = g r) →
      renumberEntries f entries = renumberEntries g entries
  | [], _ => by simp [renumberEntries]
  | (key, o) :: es, h => by
    by_cases hk : key = parentKey
    · have hes := renumberEntries_congr es fun r hr => h r (by simpa [entryReferences, hk] using hr)
      simp [renumberEntries, hk, hes]
    · have ho := renumber_congr o fun r hr => h r (by simp [entryReferences, hk, hr])
      have hes := renumberEntries_congr es fun r hr => h r (by simp [entryReferences, hk, hr])
      simp [renumberEntries, hk, ho, hes]

end

mutual

theorem references_renumber (f : ObjectId → ObjectId) :
    (o : Object α) → (o.renumber f).references = o.references.map f
  | null | boolean _ | integer _ | real _ | name _ | string .. => by simp [renumber, references]
  | reference _ => by simp [renumber, references]
  | array items => by simp [renumber, references, itemReferences_renumberItems f items]
  | dictionary entries => by
    simp [renumber, references, entryReferences_renumberEntries f entries]

theorem itemReferences_renumberItems (f : ObjectId → ObjectId) :
    (items : List (Object α)) →
      itemReferences (renumberItems f items) = (itemReferences items).map f
  | [] => by simp [renumberItems, itemReferences]
  | o :: os => by
    simp [renumberItems, itemReferences, references_renumber f o, itemReferences_renumberItems f os]

theorem entryReferences_renumberEntries (f : ObjectId → ObjectId) :
    (entries : List (Bytes × Object α)) →
      entryReferences (renumberEntries f entries) = (entryReferences entries).map f
  | [] => by simp [renumberEntries, entryReferences]
  | (key, o) :: es => by
    have hes := entryReferences_renumberEntries f es
    by_cases h : key = parentKey
    · simp [renumberEntries, entryReferences, h, hes]
    · simp [renumberEntries, entryReferences, h, hes, references_renumber f o]

end

-- The way up is no part of what is copied.
theorem renumberEntries_set_parent (f : ObjectId → ObjectId) (d : Dictionary α) (v : Object α) :
    renumberEntries f (Dictionary.set d "Parent" v) = renumberEntries f d := by
  unfold Dictionary.set
  induction d with
  | nil => simp [Dictionary.put, renumberEntries, parentKey]
  | cons e d ih =>
    obtain ⟨key, o⟩ := e
    by_cases h : key = parentKey <;> simp_all [Dictionary.put, renumberEntries, parentKey]

theorem entryReferences_set_subset (d : Dictionary α) {k : String} {v : Object α}
    (hv : v.references = []) : entryReferences (d.set k v) ⊆ entryReferences d := by
  unfold Dictionary.set
  induction d with
  | nil => simp [Dictionary.put, entryReferences, hv]
  | cons e d ih =>
    obtain ⟨key, o⟩ := e
    by_cases hk : key = Bytes.ofText k
    · by_cases hp : key = parentKey <;> simp_all [Dictionary.put, entryReferences]
    · by_cases hp : key = parentKey
      · have hk' : parentKey ≠ Bytes.ofText k := hp ▸ hk
        simpa [Dictionary.put, entryReferences, hk', hp] using ih
      · intro r
        simp only [Dictionary.put, entryReferences, hk, hp, if_false, List.mem_append]
        exact .imp_right (@ih r)

-- What an entry refers to, the whole dictionary refers to.
theorem mem_entryReferences {d : Dictionary α} {k : Bytes} {o : Object α} {r : ObjectId}
    (ho : d.find? k = some o) (hk : k ≠ parentKey) (hr : r ∈ o.references) :
    r ∈ entryReferences d := by
  induction d with
  | nil => simp at ho
  | cons e d ih =>
    obtain ⟨key, o'⟩ := e
    rw [Dictionary.find?_cons] at ho
    by_cases hkey : k = key
    · simp_all [entryReferences]
    · by_cases hp : key = parentKey <;> simp_all [entryReferences]

end Object

namespace Indirect

variable [Coordinate α]

theorem renumber_renumber (f g : ObjectId → ObjectId) (o : Indirect α) :
    (o.renumber f).renumber g = o.renumber (g ∘ f) := by
  cases o with
  | object o => simp [renumber, Object.renumber_renumber]
  | stream s =>
    have h : Bytes.ofText "Length" ≠ parentKey := by decide
    simp [renumber, Stream.make, Object.renumberEntries_set _ _ _ h, Dictionary.set_set,
      Object.renumberEntries_renumberEntries, Object.count, Object.renumber]

theorem renumber_congr {f g : ObjectId → ObjectId} (o : Indirect α)
    (h : ∀ r ∈ o.references, f r = g r) : o.renumber f = o.renumber g := by
  cases o with
  | object o => simp [renumber, Object.renumber_congr o h]
  | stream s => simp [renumber, Object.renumberEntries_congr s.entries h]

-- What an object refers to once its length is stated; only these references come into a copy.
def children (o : Indirect α) : List ObjectId :=
  (o.renumber id).references

theorem references_renumber (f : ObjectId → ObjectId) (o : Indirect α) :
    (o.renumber f).references = o.children.map f := by
  cases o with
  | object o => simp [children, renumber, references, Object.references_renumber]
  | stream s =>
    have h : Bytes.ofText "Length" ≠ parentKey := by decide
    have hl (g : ObjectId → ObjectId) (n : Nat) :
        Dictionary.set (Object.renumberEntries g s.entries) "Length" (.count n) =
          Object.renumberEntries g (s.entries.set "Length" (.count n)) := by
      simp [Object.renumberEntries_set _ _ _ h, Object.count, Object.renumber]
    simp only [children, renumber, references, Stream.make, hl,
      Object.entryReferences_renumberEntries, List.map_id]

theorem children_renumber (f : ObjectId → ObjectId) (o : Indirect α) :
    (o.renumber f).children = o.children.map f := by
  rw [children, renumber_renumber, Function.id_comp, references_renumber]

theorem children_subset (o : Indirect α) : o.children ⊆ o.references := by
  cases o with
  | object o => simp [children, renumber, references, Object.references_renumber]
  | stream s =>
    refine List.Subset.trans (Object.entryReferences_set_subset _ ?_) ?_
    · simp [Object.count, Object.references]
    · simp [Object.entryReferences_renumberEntries, references]

-- The object up to numbers: all references in it are the same.
def shape (o : Indirect α) : Indirect α :=
  o.renumber fun _ => default

theorem shape_renumber (f : ObjectId → ObjectId) (o : Indirect α) :
    (o.renumber f).shape = o.shape :=
  renumber_renumber ..

end Indirect
end Pdf
end AccessReport
