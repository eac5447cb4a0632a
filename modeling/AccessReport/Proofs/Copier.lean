import AccessReport.Proofs.Reach
import Mathlib.Data.List.Nodup

namespace AccessReport
namespace Pdf

variable {α : Type}

-- The first entry under a key is found, and here it is the only one.
theorem lookup_eq_some_of_nodup {β γ : Type} [BEq β] [LawfulBEq β] {l : List (β × γ)} {b : β}
    {c : γ} (hn : (l.map (·.1)).Nodup) (h : (b, c) ∈ l) : l.lookup b = some c := by
  obtain ⟨l₁, l₂, rfl⟩ := List.append_of_mem h
  refine List.lookup_eq_some_iff.2 ⟨l₁, l₂, rfl, fun p hp => ?_⟩
  rw [List.map_append, List.map_cons, List.nodup_append] at hn
  have hne := hn.2.2 p.1 (List.mem_map_of_mem hp) b List.mem_cons_self
  simpa using Ne.symm hne

theorem lookup_eq_none_of_notMem {β : Type} {k : ObjectId} {l : List (ObjectId × β)}
    (h : k ∉ l.map (·.1)) : l.lookup k = none :=
  List.lookup_eq_none_iff.2 fun e he =>
    bne_iff_ne.2 fun hk => h (List.mem_map.2 ⟨e, he, hk.symm⟩)

theorem lookup_append_cons {β : Type} {k n : ObjectId} {o : β} {l l' : List (ObjectId × β)}
    (h : n ∉ l.map (·.1)) :
    (l ++ (n, o) :: l').lookup k = if k = n then some o else (l ++ l').lookup k := by
  rw [List.lookup_append, List.lookup_append, List.lookup_cons]
  by_cases hk : k = n
  · simp [hk, lookup_eq_none_of_notMem h]
  · have hb : (k == n) = false := beq_eq_false_iff_ne.2 hk
    simp [hk, hb]

namespace Numbering

theorem lookup_eq_some_of_mem {n : Numbering} {id : ObjectId} (h : id ∈ n.ids) :
    n.lookup id = some (n.apply id) := by
  obtain ⟨p, hp, rfl⟩ := List.mem_map.1 h
  obtain ⟨new, hnew⟩ := Option.isSome_iff_exists.1
    (List.lookup_isSome_iff.2 ⟨p, hp, beq_self_eq_true p.1⟩)
  simp [apply, hnew]

theorem apply_mem {n : Numbering} {id : ObjectId} (h : id ∈ n.ids) : (id, n.apply id) ∈ n := by
  obtain ⟨l, r, he, -⟩ := List.lookup_eq_some_iff.1 (lookup_eq_some_of_mem h)
  have hm : (id, n.apply id) ∈ l ++ (id, n.apply id) :: r := by simp
  rwa [← he] at hm

-- More numbers do not change those that were given out.
theorem apply_append {n m : Numbering} {id : ObjectId} (h : id ∈ n.ids) :
    Numbering.apply (n ++ m) id = n.apply id := by
  rw [apply, List.lookup_append, lookup_eq_some_of_mem h]
  rfl

end Numbering

namespace Copier

theorem eq_of_objects {c c' : Copier α} (hn : c.numbering = c'.numbering)
    (ho : c.target.objects = c'.target.objects) (hm : c.target.maxId = c'.target.maxId)
    (ht : c.target.trailer = c'.target.trailer) : c = c' := by
  obtain ⟨n, objects, maxId, trailer⟩ := c
  cases hn
  cases ho
  cases hm
  cases ht
  rfl

theorem numbered_cons (next : Nat) (id : ObjectId) (ids : List ObjectId) :
    numbered next (id :: ids) = (id, ⟨next, 0⟩) :: numbered (next + 1) ids := by
  rw [numbered, numbered, List.zipIdx_cons, List.map_cons, List.zipIdx_succ, List.map_map]
  congr 2
  funext p
  simp
  omega

theorem numbered_append (next : Nat) (a b : List ObjectId) :
    numbered next (a ++ b) = numbered next a ++ numbered (next + a.length) b := by
  induction a generalizing next with
  | nil => rfl
  | cons id a ih =>
    rw [List.cons_append, numbered_cons, numbered_cons, ih, List.length_cons, List.cons_append]
    congr 3
    omega

theorem ids_numbered (next : Nat) (ids : List ObjectId) : (numbered next ids).ids = ids := by
  induction ids generalizing next with
  | nil => rfl
  | cons id ids ih => simpa [numbered_cons, Numbering.ids] using ih (next + 1)

@[simp]
theorem length_numbered (next : Nat) (ids : List ObjectId) :
    (numbered next ids).length = ids.length := by
  simp [numbered]

theorem number_numbered {next : Nat} {ids : List ObjectId} {p : ObjectId × ObjectId}
    (h : p ∈ numbered next ids) : next ≤ p.2.number ∧ p.2.number < next + ids.length := by
  induction ids generalizing next with
  | nil => simp [numbered] at h
  | cons id ids ih =>
    rw [numbered_cons] at h
    rcases List.mem_cons.1 h with rfl | h
    · simp
    · have := ih h
      simp only [List.length_cons]
      omega

theorem nodup_numbered (next : Nat) (ids : List ObjectId) :
    ((numbered next ids).map (·.2)).Nodup := by
  induction ids generalizing next with
  | nil => simp [numbered]
  | cons id ids ih =>
    rw [numbered_cons, List.map_cons, List.nodup_cons]
    refine ⟨fun h => ?_, ih (next + 1)⟩
    obtain ⟨p, hp, he⟩ := List.mem_map.1 h
    have := number_numbered hp
    rw [he] at this
    dsimp only at this
    omega

-- The objects that a call adds to the copy, in the order in which they are reached.
def added (source : Store α) (c : Copier α) (ids : List ObjectId) : List ObjectId :=
  (reach source c.numbering.ids.reverse ids).reverse.drop c.numbering.length

theorem reverse_reach_eq (source : Store α) (c : Copier α) (ids : List ObjectId) :
    (reach source c.numbering.ids.reverse ids).reverse =
      c.numbering.ids ++ added source c ids := by
  obtain ⟨new, h⟩ : c.numbering.ids.reverse <:+ reach source c.numbering.ids.reverse ids :=
    suffix_reach
  rw [added, ← h, List.reverse_append, List.reverse_reverse]
  congr 1
  exact (List.drop_left' (by simp [Numbering.ids])).symm

theorem added_eq {source : Store α} {c : Copier α} {ids new : List ObjectId}
    (h : (reach source c.numbering.ids.reverse ids).reverse = c.numbering.ids ++ new) :
    added source c ids = new := by
  rwa [reverse_reach_eq, List.append_cancel_left_eq] at h

variable [Coordinate α]

-- What a copy in progress has done so far: each object that was reached lies in the target under
-- a number of its own, with new numbers for what it refers to, and all of that was reached too.
structure Faithful (source : Store α) (c : Copier α) : Prop where
  tidy      : c.target.Tidy
  nodup     : c.numbering.ids.Nodup
  injective : (c.numbering.map (·.2)).Nodup
  closed    : ∀ id ∈ c.numbering.ids, ∀ r ∈ (sourceObject source id).references,
                r ∈ c.numbering.ids
  copied    : ∀ p ∈ c.numbering,
                c.target.at? p.2 = some ((sourceObject source p.1).renumber c.numbering.apply)

theorem Faithful.fresh {source target : Store α} (h : target.Tidy) :
    Faithful source ⟨[], target⟩ where
  tidy      := h
  nodup     := by simp [Numbering.ids]
  injective := by simp
  closed    := by simp [Numbering.ids]
  copied    := by simp

variable {source : Store α} {c : Copier α}

theorem numbering_copyAll (ids : List ObjectId) :
    (c.copyAll source ids).numbering =
      c.numbering ++ numbered (c.target.maxId + 1) (added source c ids) :=
  rfl

theorem ids_copyAll (ids : List ObjectId) :
    (c.copyAll source ids).numbering.ids =
      (reach source c.numbering.ids.reverse ids).reverse := by
  rw [numbering_copyAll, reverse_reach_eq]
  simp only [Numbering.ids, List.map_append, List.append_cancel_left_eq]
  exact ids_numbered _ _

theorem mem_ids_copyAll {ids : List ObjectId} {id : ObjectId} :
    id ∈ (c.copyAll source ids).numbering.ids ↔ id ∈ reach source c.numbering.ids.reverse ids := by
  rw [ids_copyAll, List.mem_reverse]

-- What is stored for objects that were given numbers, when references are renamed in one way.
def copies (source : Store α) (f : ObjectId → ObjectId) (n : Numbering) :
    List (ObjectId × Indirect α) :=
  n.map fun (id, new) => (new, (sourceObject source id).renumber f)

theorem keys_copies (source : Store α) (f : ObjectId → ObjectId) (n : Numbering) :
    (copies source f n).map (·.1) = n.map (·.2) := by
  simp [copies, Function.comp_def]

theorem copies_congr {f g : ObjectId → ObjectId} {n : Numbering}
    (h : ∀ id ∈ n.ids, ∀ r ∈ (sourceObject source id).references, f r = g r) :
    copies source f n = copies source g n :=
  List.map_congr_left fun p hp =>
    congrArg (Prod.mk p.2) (Indirect.renumber_congr _ (h p.1 (List.mem_map_of_mem hp)))

theorem objects_copyAll (source : Store α) (c : Copier α) (ids : List ObjectId) :
    (c.copyAll source ids).target.objects =
      (copies source (c.copyAll source ids).numbering.apply
        (numbered (c.target.maxId + 1) (added source c ids))).reverse ++ c.target.objects :=
  rfl

theorem at?_copyAll (ids : List ObjectId) (k : ObjectId) :
    (c.copyAll source ids).target.at? k =
      ((copies source (c.copyAll source ids).numbering.apply
        (numbered (c.target.maxId + 1) (added source c ids))).reverse.lookup k).or
          (c.target.at? k) :=
  List.lookup_append

theorem maxId_copyAll (ids : List ObjectId) :
    (c.copyAll source ids).target.maxId = c.target.maxId + (added source c ids).length := by
  simp [copyAll, added]

theorem at?_copyAll_of_le {ids : List ObjectId} {k : ObjectId} (h : k.number ≤ c.target.maxId) :
    (c.copyAll source ids).target.at? k = c.target.at? k := by
  rw [at?_copyAll, Option.or_eq_right_of_none]
  refine lookup_eq_none_of_notMem fun hk => ?_
  rw [List.map_reverse, List.mem_reverse, keys_copies] at hk
  obtain ⟨p, hp, rfl⟩ := List.mem_map.1 hk
  have := number_numbered hp
  omega

theorem keeps_copyAll (h : c.target.Tidy) (ids : List ObjectId) :
    c.target.Keeps (c.copyAll source ids).target := by
  intro k o ho
  rwa [at?_copyAll_of_le (h.number_le ho)]

theorem ids_target_copyAll (ids : List ObjectId) :
    (c.copyAll source ids).target.ids =
      ((numbered (c.target.maxId + 1) (added source c ids)).map (·.2)).reverse ++
        c.target.ids := by
  rw [Store.ids, objects_copyAll, List.map_append, List.map_reverse, keys_copies, Store.ids]

theorem tidy_copyAll (h : c.target.Tidy) (ids : List ObjectId) :
    (c.copyAll source ids).target.Tidy := by
  intro k hk
  rw [maxId_copyAll]
  rw [ids_target_copyAll] at hk
  rcases List.mem_append.1 hk with hk | hk
  · obtain ⟨p, hp, rfl⟩ := List.mem_map.1 (List.mem_reverse.1 hk)
    have := number_numbered hp
    omega
  · have := h k hk
    omega

theorem grows_copyAll (h : c.target.Tidy) (ids : List ObjectId) :
    c.target.Grows (c.copyAll source ids).target :=
  ⟨tidy_copyAll h ids, keeps_copyAll h ids, rfl⟩

-- A copied object lies under its new number.
theorem at?_copyAll_of_mem {ids : List ObjectId} {p : ObjectId × ObjectId}
    (h : p ∈ numbered (c.target.maxId + 1) (added source c ids)) :
    (c.copyAll source ids).target.at? p.2 =
      some ((sourceObject source p.1).renumber (c.copyAll source ids).numbering.apply) := by
  rw [at?_copyAll]
  generalize (c.copyAll source ids).numbering.apply = f
  have hkeys : ((copies source f
      (numbered (c.target.maxId + 1) (added source c ids))).reverse.map (·.1)).Nodup := by
    rw [List.map_reverse, List.nodup_reverse, keys_copies]
    exact nodup_numbered _ _
  rw [lookup_eq_some_of_nodup hkeys (List.mem_reverse.2 (List.mem_map.2 ⟨p, h, rfl⟩))]
  rfl

theorem Faithful.copyAll (h : Faithful source c) (ids : List ObjectId) :
    Faithful source (c.copyAll source ids) where
  tidy      := tidy_copyAll h.tidy ids
  nodup     := by
    rw [ids_copyAll, List.nodup_reverse]
    exact nodup_reach (List.nodup_reverse.2 h.nodup)
  injective := by
    rw [numbering_copyAll, List.map_append, List.nodup_append]
    refine ⟨h.injective, nodup_numbered _ _, fun k hk k' hk' => ?_⟩
    obtain ⟨p, hp, rfl⟩ := List.mem_map.1 hk
    obtain ⟨p', hp', rfl⟩ := List.mem_map.1 hk'
    have hle := h.tidy.number_le (h.copied p hp)
    have := number_numbered hp'
    intro he
    rw [he] at hle
    omega
  closed    := by
    intro id hid r hr
    rw [mem_ids_copyAll] at hid ⊢
    refine references_subset_reach (fun i hi r hr => .inl ?_) id hid r hr
    exact List.mem_reverse.2 (h.closed i (List.mem_reverse.1 hi) r hr)
  copied    := by
    intro p hp
    rw [numbering_copyAll] at hp
    rcases List.mem_append.1 hp with hp | hp
    · have hid : p.1 ∈ c.numbering.ids := List.mem_map_of_mem hp
      rw [keeps_copyAll h.tidy ids _ _ (h.copied p hp)]
      congr 1
      refine Indirect.renumber_congr _ fun r hr => ?_
      exact (Numbering.apply_append (h.closed p.1 hid r hr)).symm
    · exact at?_copyAll_of_mem hp

theorem subset_ids_copyAll (ids : List ObjectId) :
    ids ⊆ (c.copyAll source ids).numbering.ids :=
  fun _ hid => mem_ids_copyAll.2 (pending_subset_reach hid)

-- What was reached lies in the target with all that it refers to.
theorem Faithful.at?_apply (h : Faithful source c) {id : ObjectId} (hid : id ∈ c.numbering.ids) :
    c.target.at? (c.numbering.apply id) =
      some ((sourceObject source id).renumber c.numbering.apply) :=
  h.copied _ (Numbering.apply_mem hid)

theorem Faithful.apply_injective (h : Faithful source c) {a b : ObjectId}
    (ha : a ∈ c.numbering.ids) (hb : b ∈ c.numbering.ids)
    (he : c.numbering.apply a = c.numbering.apply b) : a = b :=
  congrArg Prod.fst <|
    List.inj_on_of_nodup_map h.injective (Numbering.apply_mem ha) (Numbering.apply_mem hb) he

/-! ### Copying in parts -/

variable {ids : List ObjectId} {id : ObjectId}

theorem references_subset_of_mem_added (h : id ∈ added source c ids) :
    (sourceObject source id).references ⊆ (c.copyAll source ids).numbering.ids := by
  obtain ⟨new, he, hnew⟩ := exists_reach source c.numbering.ids.reverse ids
  have hadded : added source c ids = new.reverse :=
    added_eq (by rw [he, List.reverse_append, List.reverse_reverse])
  rw [hadded, List.mem_reverse] at h
  exact fun r hr => mem_ids_copyAll.2 (hnew id h hr)

theorem added_append (ids ids' : List ObjectId) :
    added source c (ids ++ ids') =
      added source c ids ++ added source (c.copyAll source ids) ids' := by
  have h := reverse_reach_eq source (c.copyAll source ids) ids'
  rw [ids_copyAll, List.reverse_reverse, ← reach_append, reverse_reach_eq source c ids,
    List.append_assoc] at h
  exact added_eq h

-- Copying what some references lead to, and then what others do, is one copy of both.
theorem copyAll_append (ids ids' : List ObjectId) :
    c.copyAll source (ids ++ ids') = (c.copyAll source ids).copyAll source ids' := by
  have hnumbering : (c.copyAll source (ids ++ ids')).numbering =
      ((c.copyAll source ids).copyAll source ids').numbering := by
    rw [numbering_copyAll, numbering_copyAll, numbering_copyAll, maxId_copyAll, added_append,
      numbered_append, List.append_assoc, Nat.add_right_comm]
  refine eq_of_objects hnumbering ?_ ?_ rfl
  · have hfirst : copies source (c.copyAll source (ids ++ ids')).numbering.apply
          (numbered (c.target.maxId + 1) (added source c ids)) =
        copies source (c.copyAll source ids).numbering.apply
          (numbered (c.target.maxId + 1) (added source c ids)) := by
      refine copies_congr fun i hi r hr => ?_
      rw [ids_numbered] at hi
      rw [hnumbering, numbering_copyAll _ (c := c.copyAll source ids)]
      exact Numbering.apply_append (references_subset_of_mem_added hi hr)
    rw [objects_copyAll, objects_copyAll, objects_copyAll, added_append, numbered_append, copies,
      List.map_append, ← copies, ← copies, List.reverse_append, hfirst, hnumbering, maxId_copyAll,
      List.append_assoc, Nat.add_right_comm]
  · rw [maxId_copyAll, maxId_copyAll, maxId_copyAll, added_append, List.length_append,
      Nat.add_assoc]

theorem copyAll_eq_self
    (h : reach source c.numbering.ids.reverse ids = c.numbering.ids.reverse) :
    c.copyAll source ids = c := by
  have hadded : added source c ids = [] :=
    added_eq (by rw [h, List.reverse_reverse, List.append_nil])
  refine eq_of_objects ?_ ?_ ?_ rfl
  · rw [numbering_copyAll, hadded]
    exact List.append_nil _
  · rw [objects_copyAll, hadded]
    rfl
  · rw [maxId_copyAll, hadded]
    rfl

theorem copyAll_nil : c.copyAll source [] = c :=
  copyAll_eq_self reach_nil

theorem copyAll_of_mem (h : id ∈ c.numbering.ids) : c.copyAll source [id] = c :=
  copyAll_eq_self (by rw [reach_seen (List.mem_reverse.2 h), reach_nil])

end Copier
end Pdf
end AccessReport
