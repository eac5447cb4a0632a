import AccessReport.Proofs.Copies

namespace AccessReport
namespace Pdf

variable {α σ : Type}

/-! ### Renaming from left to right -/

namespace Object

mutual

-- The object with new numbers in its references. Each is asked for when it is come upon, and what
-- one answer leaves behind is there for the next.
def rename (follow : ObjectId → σ → ObjectId × σ) : Object α → σ → Object α × σ
  | reference id, s =>
    let (new, s) := follow id s
    (reference new, s)
  | array items, s =>
    let (items, s) := renameItems follow items s
    (array items, s)
  | dictionary entries, s =>
    let (entries, s) := renameEntries follow entries s
    (dictionary entries, s)
  | o, s => (o, s)

def renameItems (follow : ObjectId → σ → ObjectId × σ) :
    List (Object α) → σ → List (Object α) × σ
  | [], s => ([], s)
  | o :: os, s =>
    let (o, s) := rename follow o s
    let (os, s) := renameItems follow os s
    (o :: os, s)

def renameEntries (follow : ObjectId → σ → ObjectId × σ) :
    List (Bytes × Object α) → σ → List (Bytes × Object α) × σ
  | [], s => ([], s)
  | (key, o) :: es, s =>
    if key = parentKey then renameEntries follow es s
    else
      let (o, s) := rename follow o s
      let (es, s) := renameEntries follow es s
      ((key, o) :: es, s)

end

theorem rename_atom {o : Object α} (h : o.isAtom) (follow : ObjectId → σ → ObjectId × σ) (s : σ) :
    o.rename follow s = (o, s) := by
  cases o <;> simp_all [isAtom, rename]

theorem references_atom {o : Object α} (h : o.isAtom) : o.references = [] := by
  cases o <;> simp_all [isAtom, references]

end Object

def Indirect.rename [Coordinate α] (follow : ObjectId → σ → ObjectId × σ) :
    Indirect α → σ → Indirect α × σ
  | object o, s =>
    let (o, s) := o.rename follow s
    (object o, s)
  | stream t, s =>
    let (entries, s) := Object.renameEntries follow t.entries s
    (stream (Stream.make entries t.body t.compressible), s)

/-! ### Copying depth first -/

namespace Copier

-- The next number is given to an object before anything in it is looked at.
def reserve (c : Copier α) (id : ObjectId) : Copier α :=
  ⟨c.numbering ++ [(id, c.target.nextId)], c.target.reserve.2⟩

def store (c : Copier α) (id : ObjectId) (o : Indirect α) : Copier α :=
  { c with target := c.target.insert id o }

theorem ids_reserve (c : Copier α) (id : ObjectId) :
    (c.reserve id).numbering.ids = c.numbering.ids ++ [id] := by
  simp [reserve, Numbering.ids]

theorem tidy_reserve {c : Copier α} (h : c.target.Tidy) (id : ObjectId) :
    (c.reserve id).target.Tidy :=
  fun i hi => Nat.le_succ_of_le (h i hi)

variable [Coordinate α]

-- Copies an object and, before it is stored, all that it refers to. No object is copied twice.
def visit (source : Store α) : (fuel : Nat) → ObjectId → Copier α → ObjectId × Copier α
  | 0, id, c => (id, c)
  | fuel + 1, id, c =>
    if id ∈ c.numbering.ids then (c.numbering.apply id, c)
    else
      let (o, visited) := (sourceObject source id).rename (visit source fuel) (c.reserve id)
      (c.target.nextId, visited.store c.target.nextId o)

-- One call, with as much fuel as there are objects left to be copied.
def descend (source : Store α) (c : Copier α) : Call α → Answer α × Copier α
  | .reference id =>
    let (new, c) := visit source (unseen source c.numbering.ids + 1) id c
    (.reference new, c)
  | .object o =>
    let (new, c) := o.rename (visit source (unseen source c.numbering.ids + 1)) c
    (.object new, c)

def descents (source : Store α) (c : Copier α) : List (Call α) → List (Answer α) × Copier α
  | [] => ([], c)
  | x :: xs =>
    let (answer, c) := c.descend source x
    let (answers, c) := descents source c xs
    (answer :: answers, c)

end Copier

/-! ### Copies that differ in the order of their objects -/

namespace Copier

-- The same numbers were given out and the same objects were stored, in any order.
structure Agrees (c c' : Copier α) : Prop where
  numbering : c.numbering = c'.numbering
  maxId     : c.target.maxId = c'.target.maxId
  trailer   : c.target.trailer = c'.target.trailer
  objects   : c.target.objects.Perm c'.target.objects
  at?       : ∀ k, c.target.at? k = c'.target.at? k

namespace Agrees

variable {c c' c'' : Copier α}

theorem refl (c : Copier α) : c.Agrees c :=
  ⟨rfl, rfl, rfl, .refl _, fun _ => rfl⟩

theorem trans (h : c.Agrees c') (h' : c'.Agrees c'') : c.Agrees c'' :=
  ⟨h.numbering.trans h'.numbering, h.maxId.trans h'.maxId, h.trailer.trans h'.trailer,
    h.objects.trans h'.objects, fun k => (h.at? k).trans (h'.at? k)⟩

theorem tidy (h : c.Agrees c') (ht : c'.target.Tidy) : c.target.Tidy := by
  intro id hid
  rw [h.maxId]
  exact ht id ((h.objects.map _).mem_iff.1 hid)

theorem store (h : c.Agrees c') (id : ObjectId) (o : Indirect α) :
    (c.store id o).Agrees (c'.store id o) where
  numbering := h.numbering
  maxId     := h.maxId
  trailer   := h.trailer
  objects   := (h.objects.filter _).cons _
  at? k     := by
    rw [Copier.store, Copier.store, Store.at?_insert, Store.at?_insert, h.at? k]

theorem copyAll [Coordinate α] (h : c.Agrees c') (source : Store α) (ids : List ObjectId) :
    (c.copyAll source ids).Agrees (c'.copyAll source ids) := by
  have hadded : added source c ids = added source c' ids := by
    rw [added, added, h.numbering]
  have hnumbering : (c.copyAll source ids).numbering = (c'.copyAll source ids).numbering := by
    rw [numbering_copyAll, numbering_copyAll, h.numbering, h.maxId, hadded]
  refine ⟨hnumbering, ?_, h.trailer, ?_, fun k => ?_⟩
  · rw [maxId_copyAll, maxId_copyAll, h.maxId, hadded]
  · rw [objects_copyAll, objects_copyAll, hnumbering, h.maxId, hadded]
    exact h.objects.append_left _
  · rw [at?_copyAll, at?_copyAll, h.at?, h.maxId, hadded, hnumbering]

end Agrees

variable {source : Store α} {ids ids' : List ObjectId} {id : ObjectId} {c c' : Copier α}

/-! ### An object that was not copied yet -/

theorem unseen_reserve_lt (h : id ∉ c.numbering.ids) (hs : id ∈ source.ids) :
    unseen source (c.reserve id).numbering.ids < unseen source c.numbering.ids := by
  refine Nat.lt_of_le_of_lt (unseen_le_of_subset ?_) (unseen_cons_lt h hs)
  rw [ids_reserve]
  exact List.cons_subset.2 ⟨by simp, List.subset_append_left _ _⟩

theorem added_reserve (h : id ∉ c.numbering.ids) :
    added source c [id] =
      id :: added source (c.reserve id) (sourceObject source id).references := by
  have hreach := reverse_reach_eq source (c.reserve id) (sourceObject source id).references
  rw [ids_reserve, List.reverse_append, List.reverse_singleton, List.singleton_append,
    List.append_assoc] at hreach
  refine added_eq ?_
  rwa [reach_unseen (by simpa using h), List.append_nil]

theorem numbered_added (h : id ∉ c.numbering.ids) :
    numbered (c.target.maxId + 1) (added source c [id]) =
      (id, c.target.nextId) :: numbered ((c.reserve id).target.maxId + 1)
        (added source (c.reserve id) (sourceObject source id).references) := by
  rw [added_reserve h, numbered_cons]
  rfl

variable [Coordinate α]

-- The copy when all that an object refers to is there, and only its own place is still empty.
def beneath (source : Store α) (c : Copier α) (id : ObjectId) : Copier α :=
  (c.reserve id).copyAll source (sourceObject source id).references

theorem numbering_beneath (h : id ∉ c.numbering.ids) :
    (c.beneath source id).numbering = (c.copyAll source [id]).numbering := by
  rw [beneath, numbering_copyAll, numbering_copyAll, numbered_added h]
  exact List.append_assoc ..

theorem maxId_beneath (h : id ∉ c.numbering.ids) :
    (c.beneath source id).target.maxId = (c.copyAll source [id]).target.maxId := by
  rw [beneath, maxId_copyAll, maxId_copyAll, added_reserve h, List.length_cons,
    Nat.add_comm _ 1, ← Nat.add_assoc]
  rfl

theorem objects_beneath (source : Store α) (h : id ∉ c.numbering.ids) :
    ∃ stored, (c.beneath source id).target.objects = stored ++ c.target.objects ∧
      (c.copyAll source [id]).target.objects =
        stored ++ (c.target.nextId, (sourceObject source id).renumber
          (c.beneath source id).numbering.apply) :: c.target.objects := by
  refine ⟨_, objects_copyAll source (c.reserve id) _, ?_⟩
  rw [objects_copyAll, numbered_added h, ← numbering_beneath h]
  simp [copies, beneath]

-- The number that was reserved stays with its object and is given to nothing else.
theorem apply_beneath (h : id ∉ c.numbering.ids) :
    (c.beneath source id).numbering.apply id = c.target.nextId := by
  rw [beneath, numbering_copyAll, Numbering.apply_append (by simp [ids_reserve]), reserve,
    Numbering.apply, List.lookup_append, lookup_eq_none_of_notMem h]
  simp

theorem nextId_not_mem_beneath (ht : c.target.Tidy) (id : ObjectId) :
    c.target.nextId ∉ (c.beneath source id).target.ids := by
  rw [beneath, ids_target_copyAll]
  intro hm
  rcases List.mem_append.1 hm with hm | hm
  · obtain ⟨p, hp, he⟩ := List.mem_map.1 (List.mem_reverse.1 hm)
    have hnumber : (c.reserve id).target.maxId + 1 ≤ p.2.number := (number_numbered hp).1
    rw [he] at hnumber
    exact Nat.not_succ_le_self _ hnumber
  · exact Nat.not_succ_le_self _ (ht _ hm)

-- To store an object behind all that it refers to comes to the same as to copy it before them.
theorem agrees_store (ht : c.target.Tidy) (h : id ∉ c.numbering.ids) :
    ((c.beneath source id).store c.target.nextId
      ((sourceObject source id).renumber (c.beneath source id).numbering.apply)).Agrees
      (c.copyAll source [id]) := by
  obtain ⟨stored, hbeneath, hcopied⟩ := objects_beneath source h
  have hnew : c.target.nextId ∉ (c.beneath source id).target.ids := nextId_not_mem_beneath ht id
  refine ⟨numbering_beneath h, maxId_beneath h, rfl, ?_, fun k => ?_⟩
  · rw [hcopied, store, Store.insert_of_not_mem hnew, hbeneath]
    exact List.perm_middle.symm
  · rw [Store.ids, hbeneath, List.map_append] at hnew
    rw [store, Store.at?_insert, Store.at?, Store.at?, hcopied, hbeneath,
      lookup_append_cons fun hm => hnew (List.mem_append_left _ hm)]

/-! ### What a run does -/

-- A run that copies all that some references lead to and answers with its numbers. It does so from
-- wherever it starts, as long as fewer objects are left than `fuel`.
def Performs {β : Type} (source : Store α) (fuel : Nat) (ids : List ObjectId)
    (answer : (ObjectId → ObjectId) → β) (run : Copier α → β × Copier α) : Prop :=
  ∀ c, c.target.Tidy → unseen source c.numbering.ids < fuel →
    (run c).1 = answer (c.copyAll source ids).numbering.apply ∧
      (run c).2.Agrees (c.copyAll source ids)

namespace Performs

variable {β γ : Type} {fuel : Nat} {answer : (ObjectId → ObjectId) → β}
  {run : Copier α → β × Copier α}

theorem pure (b : β) : Performs source fuel [] (fun _ => b) (fun c => (b, c)) := by
  intro c _ _
  rw [copyAll_nil]
  exact ⟨rfl, .refl c⟩

theorem map (h : Performs source fuel ids answer run) (g : β → γ) :
    Performs source fuel ids (fun f => g (answer f)) fun c => (g (run c).1, (run c).2) :=
  fun c ht hk => ⟨congrArg g (h c ht hk).1, (h c ht hk).2⟩

-- Two runs, one after the other. What the second gives out does not change the first's answer.
theorem pair {answer' : (ObjectId → ObjectId) → γ} {run' : Copier α → γ × Copier α}
    (h : Performs source fuel ids answer run) (h' : Performs source fuel ids' answer' run')
    (hanswer : ∀ f g, (∀ r ∈ ids, f r = g r) → answer f = answer g) :
    Performs source fuel (ids ++ ids') (fun f => (answer f, answer' f)) fun c =>
      (((run c).1, (run' (run c).2).1), (run' (run c).2).2) := by
  intro c ht hk
  obtain ⟨h₁, ha⟩ := h c ht hk
  have hunseen : unseen source (run c).2.numbering.ids < fuel := by
    rw [ha.numbering]
    refine Nat.lt_of_le_of_lt (unseen_le_of_subset fun i hi => ?_) hk
    exact mem_ids_copyAll.2 (suffix_reach.mem (List.mem_reverse.2 hi))
  obtain ⟨h₂, ha'⟩ := h' (run c).2 (ha.tidy (tidy_copyAll ht ids)) hunseen
  have hcopy := ha.copyAll source ids'
  rw [copyAll_append]
  refine ⟨Prod.ext ?_ ?_, ha'.trans hcopy⟩
  · refine h₁.trans (hanswer _ _ fun r hr => ?_)
    rw [numbering_copyAll _ (c := c.copyAll source ids)]
    exact (Numbering.apply_append (subset_ids_copyAll ids hr)).symm
  · exact h₂.trans (by rw [hcopy.numbering])

variable {follow : ObjectId → Copier α → ObjectId × Copier α}

theorem renameItems {items : List (Object α)}
    (h : ∀ o ∈ items, Performs source fuel o.references (fun f => o.renumber f) (o.rename follow)) :
    Performs source fuel (Object.itemReferences items) (fun f => Object.renumberItems f items)
      (Object.renameItems follow items) := by
  induction items with
  | nil => exact Performs.pure []
  | cons o os ih =>
    exact ((h o List.mem_cons_self).pair (ih fun o ho => h o (List.mem_cons_of_mem _ ho))
      fun f g hr => o.renumber_congr hr).map fun p => p.1 :: p.2

theorem renameEntries {entries : Dictionary α}
    (h : ∀ e ∈ entries, Performs source fuel e.2.references (fun f => e.2.renumber f)
      (e.2.rename follow)) :
    Performs source fuel (Object.entryReferences entries)
      (fun f => Object.renumberEntries f entries) (Object.renameEntries follow entries) := by
  induction entries with
  | nil => exact Performs.pure []
  | cons e es ih =>
    obtain ⟨key, o⟩ := e
    have hes := ih fun e he => h e (List.mem_cons_of_mem _ he)
    simp only [Object.entryReferences, Object.renumberEntries, Object.renameEntries]
    by_cases hkey : key = parentKey
    · simp only [hkey, if_true]
      exact hes
    · simp only [hkey, if_false]
      exact ((h (key, o) List.mem_cons_self).pair hes
        fun f g hr => o.renumber_congr hr).map fun p => (key, p.1) :: p.2

theorem rename (h : ∀ id, Performs source fuel [id] (fun f => f id) (follow id)) (o : Object α) :
    Performs source fuel o.references (fun f => o.renumber f) (o.rename follow) := by
  induction o using Object.induction with
  | atom o ho =>
    have hrun : o.rename follow = fun c => (o, c) := funext (Object.rename_atom ho follow)
    simp only [hrun, Object.references_atom ho, Object.renumber_atom ho]
    exact Performs.pure o
  | array items ih => exact (renameItems ih).map Object.array
  | dictionary entries ih => exact (renameEntries ih).map Object.dictionary
  | reference id => exact (h id).map Object.reference

theorem rename_indirect (h : ∀ id, Performs source fuel [id] (fun f => f id) (follow id))
    (o : Indirect α) :
    Performs source fuel o.references (fun f => o.renumber f) (o.rename follow) := by
  cases o with
  | object o => exact (rename h o).map Indirect.object
  | stream t =>
    exact (renameEntries fun e _ => rename h e.2).map fun entries =>
      Indirect.stream (Stream.make entries t.body t.compressible)

end Performs

-- With an object that is gone into, one fewer is left; a missing one has nothing to go into.
theorem rename_sourceObject {fuel : Nat}
    (ih : ∀ id, Performs source fuel [id] (fun f => f id) (visit source fuel id))
    (ht : c.target.Tidy) (hk : unseen source c.numbering.ids < fuel + 1)
    (hid : id ∉ c.numbering.ids) :
    ((sourceObject source id).rename (visit source fuel) (c.reserve id)).1 =
        (sourceObject source id).renumber (c.beneath source id).numbering.apply ∧
      ((sourceObject source id).rename (visit source fuel) (c.reserve id)).2.Agrees
        (c.beneath source id) := by
  rw [beneath]
  cases hget : source.get? id with
  | none =>
    rw [references_sourceObject_of_none hget, copyAll_nil, sourceObject, hget]
    exact ⟨rfl, .refl _⟩
  | some o =>
    refine Performs.rename_indirect ih _ _ (tidy_reserve ht id) ?_
    have hlt := unseen_reserve_lt hid (mem_ids_of_get? hget)
    omega

theorem performs_visit (source : Store α) (fuel : Nat) (id : ObjectId) :
    Performs source fuel [id] (fun f => f id) (visit source fuel id) := by
  induction fuel generalizing id with
  | zero => exact fun _ _ hk => absurd hk (Nat.not_lt_zero _)
  | succ fuel ih =>
    intro c ht hk
    rw [visit]
    by_cases hid : id ∈ c.numbering.ids
    · rw [if_pos hid, copyAll_of_mem hid]
      exact ⟨rfl, .refl c⟩
    · rw [if_neg hid]
      obtain ⟨ho, ha⟩ := rename_sourceObject ih ht hk hid
      refine ⟨?_, ?_⟩
      · rw [← numbering_beneath hid]
        exact (apply_beneath hid).symm
      · dsimp only
        rw [ho]
        exact (ha.store _ _).trans (agrees_store ht hid)

theorem agrees_descend (h : c.target.Tidy) (source : Store α) (x : Call α) :
    (c.descend source x).1 = (c.call source x).1 ∧
      (c.descend source x).2.Agrees (c.call source x).2 := by
  have hfuel : unseen source c.numbering.ids < unseen source c.numbering.ids + 1 :=
    Nat.lt_succ_self _
  cases x with
  | reference id =>
    obtain ⟨hid, ha⟩ := performs_visit source _ id c h hfuel
    exact ⟨congrArg Answer.reference hid, ha⟩
  | object o =>
    obtain ⟨ho, ha⟩ := Performs.rename_indirect (performs_visit source _) o c h hfuel
    exact ⟨congrArg Answer.object ho, ha⟩

theorem Agrees.call (h : c.Agrees c') (source : Store α) (x : Call α) :
    (c.call source x).1 = (c'.call source x).1 ∧
      (c.call source x).2.Agrees (c'.call source x).2 := by
  have ha := h.copyAll source x.references
  rw [call_eq, call_eq]
  exact ⟨by rw [ha.numbering], ha⟩

theorem Agrees.descents (h : c.Agrees c') (ht : c'.target.Tidy) (xs : List (Call α)) :
    (c.descents source xs).1 = (c'.calls source xs).1 ∧
      (c.descents source xs).2.Agrees (c'.calls source xs).2 := by
  induction xs generalizing c c' with
  | nil => exact ⟨rfl, h⟩
  | cons x xs ih =>
    obtain ⟨hdescend, hd⟩ := agrees_descend (h.tidy ht) source x
    obtain ⟨hcall, hc⟩ := h.call source x
    have htidy : (c'.call source x).2.target.Tidy := by
      rw [call_eq]
      exact tidy_copyAll ht x.references
    obtain ⟨hrest, hr⟩ := ih (hd.trans hc) htidy
    exact ⟨congrArg₂ List.cons (hdescend.trans hcall) hrest, hr⟩

-- The order in which copies are made shows nowhere: when each object is stored behind all that it
-- refers to, and is renamed with the numbers that are known by then, all calls get the same answers
-- and leave the same objects under the same numbers.
theorem agrees_descents (h : c.target.Tidy) (xs : List (Call α)) :
    (c.descents source xs).1 = (c.calls source xs).1 ∧
      (c.descents source xs).2.Agrees (c.calls source xs).2 :=
  (Agrees.refl c).descents h xs

-- The second object of the ring gets the first number and is stored last.
example : (visit ring 3 ⟨2, 0⟩ ⟨[], single⟩).2.target.ids =
    [⟨2, 0⟩, ⟨4, 0⟩, ⟨3, 0⟩, ⟨1, 0⟩] := by
  decide +kernel

end Copier
end Pdf
end AccessReport
