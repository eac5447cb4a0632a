import AccessReport.Proofs.Copies
import AccessReport.Proofs.Editing
import AccessReport.Proofs.Merging

namespace AccessReport

open Coordinate Pdf

variable {α : Type}

-- A list with another one put into it, or behind it when it is too short.
def spliced {β : Type} (i : Nat) (l m : List β) : List β :=
  l.take i ++ m ++ l.drop i

section Spliced

variable {β γ : Type} {i : Nat} {l m : List β}

theorem spliced_perm : (spliced i l m).Perm (l ++ m) := by
  rw [spliced, List.append_assoc]
  refine (List.Perm.append_left _ List.perm_append_comm).trans ?_
  rw [← List.append_assoc, List.take_append_drop]

theorem map_spliced (g : β → γ) : (spliced i l m).map g = spliced i (l.map g) (m.map g) := by
  simp [spliced, List.map_take, List.map_drop]

theorem mem_spliced {x : β} : x ∈ spliced i l m ↔ x ∈ l ∨ x ∈ m := by
  rw [spliced_perm.mem_iff, List.mem_append]

end Spliced

variable [Coordinate α]

namespace Pdf.Indirect

omit [Coordinate α] in
theorem Solid.adopted {o : Indirect α} (h : o.Solid) : o.adopted.Solid := by
  cases o with
  | object o => cases o <;> simp_all [Indirect.adopted, Solid]
  | stream s => exact h

end Pdf.Indirect

namespace Document

variable {d other : Document α} {id : ObjectId} {f : ObjectId → ObjectId} {i : Nat}

/-! ### Pages in a copy -/

namespace PageRecord

variable {p : PageRecord α}

theorem leaf_merged : (IsAt.merged p f).leaf = p.leaf.renumber f := by
  have hr : Bytes.ofText "Resources" ≠ Bytes.ofText "Parent" := by decide
  simp only [leaf, Leaf.renumber, IsAt.merged, Dictionary.get?_set_of_ne _ _ hr]
  rw [Object.get?_renumberEntries f _ (by decide)]

theorem Clean.merged (h : p.Clean) : (IsAt.merged p f).Clean where
  content := by
    have hl : Bytes.ofText "Filter" ≠ Bytes.ofText "Length" := by decide
    simp only [IsAt.merged, Stream.make, Dictionary.get?_set_of_ne _ _ hl]
    rw [Object.get?_renumberEntries f _ (by decide), h.content]
    rfl
  named   := by
    rw [leaf_merged]
    exact h.named.renumber f

omit [Coordinate α] in
-- What a name on a page stands for, the page refers to.
theorem mem_entryReferences {category name : Bytes} (h : p.leaf.Named)
    (hr : p.leaf.resource? category name = some id) : id ∈ Object.entryReferences p.entries := by
  have ⟨hc, hn⟩ := h category name (by simp [hr])
  obtain ⟨o, ho, hid⟩ := Option.bind_eq_some_iff.1 hr
  obtain ⟨names, hnames, ho⟩ := Option.bind_eq_some_iff.1 ho
  obtain ⟨o', ho', hnames⟩ := Option.bind_eq_some_iff.1 hnames
  obtain ⟨categories, hcategories, ho'⟩ := Option.bind_eq_some_iff.1 ho'
  obtain ⟨o'', hresources, hcategories⟩ := Option.bind_eq_some_iff.1 hcategories
  obtain rfl : o = .reference id := by cases o <;> simp_all [Object.reference?]
  obtain rfl : o' = .dictionary names := by cases o' <;> simp_all [Object.dictionary?]
  obtain rfl : o'' = .dictionary categories := by cases o'' <;> simp_all [Object.dictionary?]
  refine Object.mem_entryReferences hresources (by decide) ?_
  refine Object.mem_entryReferences (d := categories) ho' hc ?_
  exact Object.mem_entryReferences (d := names) ho hn (by simp [Object.references])

end PageRecord

/-! ### All that is copied -/

theorem mem_copier_iff : id ∈ (d.copier other).numbering.ids ↔
    ∃ page ∈ other.pageIds, other.store.Reaches page id := by
  rw [copier, Copier.mem_ids_copyAll, mem_reach_iff]
  · simp [Numbering.ids]
  · simp [Numbering.ids]

-- Pages hang in the tree of their new document; everything else is just a copy.
theorem get?_merged (h : d.store.Tidy) (hid : id ∈ (d.copier other).numbering.ids) :
    ∃ o, (sourceObject other.store id).Copied (d.copier other).numbering.apply o ∧
      (d.merged other).store.get? ((d.copier other).numbering.apply id) =
        some (if id ∈ other.pageIds then o.adopted else o) := by
  have hf : Copier.Faithful other.store (d.copier other) := faithful_copier h
  refine ⟨_, (sourceObject other.store id).copied_renumber _, Store.get?_of_at? ?_ ?_⟩
  · have hm : (d.copier other).numbering.apply id ∈ d.copied other ↔ id ∈ other.pageIds := by
      refine ⟨fun hm => ?_, List.mem_map_of_mem⟩
      obtain ⟨k, hk, he⟩ := List.mem_map.1 hm
      rwa [← hf.apply_injective (pageIds_subset_copier hk) hid he]
    rw [merged, Store.at?_foldl_adopt, hf.at?_apply hid]
    simp only [hm]
    split <;> rfl
  · have hs := Indirect.solid_renumber (f := (d.copier other).numbering.apply).2
      (solid_sourceObject other.store id)
    split
    · exact hs.adopted
    · exact hs

section Merged

variable (h : d.Paged) (ho : other.Paged)

include h ho

theorem isPage_merged (hid : id ∈ other.pageIds) :
    IsPage (d.merged other).store ((d.copier other).numbering.apply id) ∧
      (d.merged other).store.leaf ((d.copier other).numbering.apply id) =
        (other.store.leaf id).renumber (d.copier other).numbering.apply := by
  obtain ⟨p, hp, hc⟩ := ho.pages id hid
  have hm := hp.liesIn_merged hid h.tidy
  exact ⟨⟨_, hm, hc.merged⟩, by rw [hm.leaf_eq, hp.leaf_eq, PageRecord.leaf_merged]⟩

end Merged

-- The pages of another document put between those of this one.
def inserted (d other : Document α) (i : Nat) : Document α :=
  { d.merged other with pageIds := spliced i d.pageIds (d.copied other) }

theorem length_pageIds_closePage : d.closePage.pageIds.length = d.pageCount := by
  cases h : d.current with
  | none => simp [closePage_of_none h, pageCount, h]
  | some p => simp [closePage_of_some h, pageCount, h]

theorem merge_eq (d other : Document α) (i : Nat) :
    d.merge other i =
      (other.pageCount, d.closePage.inserted other.closePage (min i d.pageCount)) := by
  rw [← length_pageIds_closePage, ← length_pageIds_closePage]
  simp [merge, inserted, merged, copied, copier, spliced]

namespace Paged

theorem inserted (h : d.Paged) (ho : other.Paged) (i : Nat) : (d.inserted other i).Paged := by
  have hg : d.store.Grows (d.merged other).store := grows_merged h.tidy
  refine { h.grow hg with nodup := ?_, pages := ?_ }
  · rw [Document.inserted, spliced_perm.nodup_iff, List.nodup_append]
    refine ⟨h.nodup, nodup_copied h.tidy ho.nodup, ?_⟩
    rintro a ha b hb rfl
    obtain ⟨k, hk, rfl⟩ := List.mem_map.1 hb
    exact h.notMem_pageIds (lt_number_copier (pageIds_subset_copier hk)) ha
  · intro id hid
    rcases mem_spliced.1 hid with hid | hid
    · exact (h.pages id hid).keeps hg.keeps
    · obtain ⟨k, hk, rfl⟩ := List.mem_map.1 hid
      exact (isPage_merged h ho hk).1

theorem leaves_inserted (h : d.Paged) (ho : other.Paged) (hc : d.current = none)
    (hc' : other.current = none) :
    (d.inserted other i).leaves = spliced i d.leaves
      (other.leaves.map (Leaf.renumber (d.copier other).numbering.apply)) := by
  have hold : d.pageIds.map (d.merged other).store.leaf = d.finishedLeaves :=
    h.finishedLeaves_keeps (grows_merged h.tidy).keeps
  have hnew : (d.copied other).map (d.merged other).store.leaf =
      other.finishedLeaves.map (Leaf.renumber (d.copier other).numbering.apply) := by
    rw [copied, finishedLeaves, List.map_map, List.map_map]
    exact List.map_congr_left fun id hid => (isPage_merged h ho hid).2
  rw [leaves_of_none hc, leaves_of_none hc', ← hold, ← hnew, ← map_spliced]
  exact leaves_of_none hc

end Paged
end Document
end AccessReport
