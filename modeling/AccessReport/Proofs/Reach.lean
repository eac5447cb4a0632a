import AccessReport.Proofs.Store

namespace AccessReport
namespace Pdf

variable {α : Type} {source : Store α} {seen pending rest : List ObjectId} {id : ObjectId}

theorem references_sourceObject_of_none (h : source.get? id = none) :
    (sourceObject source id).references = [] := by
  simp [sourceObject, h, Indirect.references, Object.references]

theorem sourceObject_of_some {o : Indirect α} (h : source.get? id = some o) :
    sourceObject source id = o := by
  simp [sourceObject, h]

theorem sourceObject_of_at? {o : Indirect α} (h : source.at? id = some o)
    (ho : ∀ r, o ≠ .object (.reference r)) : sourceObject source id = o :=
  sourceObject_of_some (Store.get?_of_at? h ho)

theorem unseen_le_of_subset {seen' : List ObjectId} (h : seen ⊆ seen') :
    unseen source seen' ≤ unseen source seen :=
  List.countP_mono_left fun i _ hi => by
    simp only [decide_eq_true_eq] at hi ⊢
    exact fun hs => hi (h hs)

@[simp]
theorem reach_nil : reach source seen [] = seen := by
  rw [reach]

theorem reach_seen (h : id ∈ seen) : reach source seen (id :: rest) = reach source seen rest := by
  rw [reach, dif_pos h]

-- A missing object refers to nothing, so that it needs no case of its own.
theorem reach_unseen (h : id ∉ seen) :
    reach source seen (id :: rest) =
      reach source (id :: seen) ((sourceObject source id).references ++ rest) := by
  rw [reach, dif_neg h]
  split
  case h_1 hg => simp [references_sourceObject_of_none hg]
  case h_2 hg => simp [sourceObject_of_some hg]

-- The induction that `reach` is made by: the first pending object was seen before, or what it
-- refers to takes its place.
theorem reach_induction (source : Store α) {motive : List ObjectId → List ObjectId → Prop}
    (nil : ∀ seen, motive seen [])
    (seen : ∀ seen id rest, id ∈ seen → motive seen rest → motive seen (id :: rest))
    (unseen : ∀ seen id rest, id ∉ seen →
      motive (id :: seen) ((sourceObject source id).references ++ rest) → motive seen (id :: rest))
    (s pending : List ObjectId) : motive s pending := by
  induction s, pending using reach.induct source with
  | case1 s => exact nil s
  | case2 s id rest h ih => exact seen s id rest h ih
  | case3 s id rest h hg ih =>
    exact unseen s id rest h (by simpa [references_sourceObject_of_none hg] using ih)
  | case4 s id rest h o hg ih =>
    exact unseen s id rest h (by simpa [sourceObject_of_some hg] using ih)

theorem suffix_reach : seen <:+ reach source seen pending := by
  induction seen, pending using reach_induction source with
  | nil seen => simp
  | seen seen id rest h ih => rwa [reach_seen h]
  | unseen seen id rest h ih =>
    rw [reach_unseen h]
    exact (List.suffix_cons id seen).trans ih

theorem pending_subset_reach : pending ⊆ reach source seen pending := by
  induction seen, pending using reach_induction source with
  | nil seen => simp
  | seen seen id rest h ih =>
    rw [reach_seen h]
    exact List.cons_subset.2 ⟨suffix_reach.mem h, ih⟩
  | unseen seen id rest h ih =>
    rw [reach_unseen h]
    refine List.cons_subset.2 ⟨suffix_reach.mem List.mem_cons_self, ?_⟩
    exact fun r hr => ih (List.mem_append_right _ hr)

theorem nodup_reach (h : seen.Nodup) : (reach source seen pending).Nodup := by
  induction seen, pending using reach_induction source with
  | nil seen => simpa
  | seen seen id rest hid ih =>
    rw [reach_seen hid]
    exact ih h
  | unseen seen id rest hid ih =>
    rw [reach_unseen hid]
    exact ih (List.nodup_cons.2 ⟨hid, h⟩)

-- All that is reached refers to what is reached. While the search is on, what was seen may still
-- refer to something pending.
theorem references_subset_reach
    (h : ∀ id ∈ seen, ∀ r ∈ (sourceObject source id).references, r ∈ seen ∨ r ∈ pending) :
    ∀ id ∈ reach source seen pending, ∀ r ∈ (sourceObject source id).references,
      r ∈ reach source seen pending := by
  induction seen, pending using reach_induction source with
  | nil seen => simpa using h
  | seen seen id rest hid ih =>
    rw [reach_seen hid]
    apply ih
    intro i hi r hr
    rcases h i hi r hr with hs | hp
    · exact .inl hs
    · rcases List.mem_cons.1 hp with rfl | hp
      · exact .inl hid
      · exact .inr hp
  | unseen seen id rest hid ih =>
    rw [reach_unseen hid]
    apply ih
    intro i hi r hr
    rcases List.mem_cons.1 hi with rfl | hi
    · exact .inr (List.mem_append_left _ hr)
    · rcases h i hi r hr with hs | hp
      · exact .inl (List.mem_cons_of_mem _ hs)
      · rcases List.mem_cons.1 hp with rfl | hp
        · exact .inl List.mem_cons_self
        · exact .inr (List.mem_append_right _ hp)

theorem reach_append (a b : List ObjectId) :
    reach source seen (a ++ b) = reach source (reach source seen a) b := by
  induction seen, a using reach_induction source with
  | nil seen => simp
  | seen seen id rest h ih => rw [List.cons_append, reach_seen h, reach_seen h, ih]
  | unseen seen id rest h ih =>
    rw [List.cons_append, reach_unseen h, reach_unseen h, ← List.append_assoc, ih]

-- What is reached anew has been looked into.
theorem exists_reach (source : Store α) (seen pending : List ObjectId) :
    ∃ new, reach source seen pending = new ++ seen ∧
      ∀ id ∈ new, (sourceObject source id).references ⊆ reach source seen pending := by
  induction seen, pending using reach_induction source with
  | nil seen => exact ⟨[], by simp⟩
  | seen seen id rest h ih => rwa [reach_seen h]
  | unseen seen id rest h ih =>
    rw [reach_unseen h]
    obtain ⟨new, he, hnew⟩ := ih
    refine ⟨new ++ [id], by simp [he], fun i hi => ?_⟩
    rcases List.mem_append.1 hi with hi | hi
    · exact hnew i hi
    · rw [List.mem_singleton.1 hi]
      exact fun r hr => pending_subset_reach (List.mem_append_left _ hr)

end Pdf
end AccessReport
