import AccessReport.Proofs.Sound
import Mathlib.Data.List.Perm.Subperm

namespace AccessReport

open Pdf

variable {α : Type}

namespace Pdf
namespace Store

variable {s : Store α} {id : ObjectId}

theorem dictionary?_of_at? {d : Dictionary α} (h : s.at? id = some (.object (.dictionary d))) :
    s.dictionary? id = some d := by
  simp [dictionary?, get?_of_at? h, Indirect.dictionary?, Indirect.object?, Object.dictionary?]

-- Pages right below the root are found in their order.
theorem pagesAmong_flat {ids : List ObjectId} {steps : Nat} (hs : ids.length ≤ steps)
    (h : ∀ id ∈ ids, (s.dictionary? id).bind Dictionary.type? = some (Bytes.ofText "Page")) :
    s.pagesAmong steps [ids.map .reference] = ids := by
  induction steps generalizing ids with
  | zero => simp_all [pagesAmong]
  | succ steps ih =>
    cases ids with
    | nil => simp [pagesAmong]
    | cons id ids =>
      have hi : s.pagesAmong steps [ids.map .reference] = ids :=
        ih (by simpa using hs) fun k hk => h k (List.mem_cons_of_mem _ hk)
      cases ids with
      | nil => cases steps <;> simp [pagesAmong, h, Object.reference?]
      | cons k ids => simp_all [pagesAmong, Object.reference?]

variable [Coordinate α]

-- Only streams are packed.
theorem at?_compress {o : Object α} (h : s.at? id = some (.object o)) :
    s.compress.at? id = some (.object o) := by
  unfold at? compress at *
  generalize s.objects = es at h
  induction es with
  | nil => cases h
  | cons e es ih =>
    obtain ⟨k, x⟩ := e
    by_cases hk : id = k
    · simp_all
    · have hb : (id == k) = false := beq_eq_false_iff_ne.2 hk
      simp only [List.lookup_cons, hb] at h
      cases x <;> simp [List.lookup_cons, hb, ih h]

end Store
end Pdf

namespace Document

variable [Coordinate α] {d : Document α} {id : ObjectId}

-- Pages and their tree have different types.
omit [Coordinate α] in
theorem PageRecord.LiesIn.ne_treeId {p : PageRecord α} {s : Store α} (h : p.LiesIn s id)
    (hs : s.at? treeId = some (.object (tree []))) : id ≠ treeId := by
  rintro rfl
  have he := h.page.symm.trans hs
  have ht := h.type
  simp only [tree, Option.some.injEq, Indirect.object.injEq, Object.dictionary.injEq] at he
  rw [he] at ht
  have hne : Bytes.ofText "Pages" ≠ Bytes.ofText "Page" := by decide
  exact hne <| Object.name.inj <| Option.some.inj ht

theorem PageRecord.IsAt.ne_treeId {p : PageRecord α} (h : p.IsAt d.store id) (hd : d.Sound) :
    id ≠ treeId :=
  h.liesIn.ne_treeId hd.tree

theorem at?_finish {o : Object α} (h : (d.closePage.store.insert treeId
    (.object (tree d.closePage.pageIds))).at? id = some (.object o)) :
    d.finish.at? id = some (.object o) := by
  unfold finish
  dsimp only
  split
  · exact Store.at?_compress h
  · exact h

theorem trailer_finish : d.finish.trailer = d.closePage.store.trailer := by
  unfold finish
  dsimp only
  split <;> rfl

theorem dictionary?_catalog_finish (h : d.closePage.store.at? catalogId = some (.object catalog)) :
    d.finish.dictionary? catalogId = (catalog : Object α).dictionary? := by
  refine Store.dictionary?_of_at? <| at?_finish ?_
  rw [Store.at?_insert, if_neg (by decide), h]
  rfl

theorem length_objects_finish : d.finish.objects.length =
    (d.closePage.store.insert treeId (.object (tree d.closePage.pageIds))).objects.length := by
  unfold finish
  dsimp only
  split
  · simp [Store.compress]
  · rfl

-- The tree of the finished file has just the pages of the document.
theorem Sound.pages_finish (h : d.Sound) : d.finish.pages = d.closePage.pageIds := by
  have hc := h.closePage
  have ht : d.finish.dictionary? treeId =
      (Document.tree d.closePage.pageIds : Object α).dictionary? :=
    Store.dictionary?_of_at? <| at?_finish <| by rw [Store.at?_insert, if_pos rfl]; rfl
  have hr := dictionary?_catalog_finish hc.catalog
  have hk : d.finish.kids treeId = d.closePage.pageIds.map .reference := by
    rw [Store.kids, ht]
    rfl
  have hp : d.finish.pages = d.finish.pagesAmong d.finish.objects.length
      [d.closePage.pageIds.map .reference] := by
    rw [Store.pages, Store.catalog?, trailer_finish, hc.root, ← hk]
    simp only [Option.bind_some, Object.reference?, hr]
    rfl
  rw [hp, Store.pagesAmong_flat]
  case hs =>
    have hids : d.closePage.pageIds ⊆ (d.closePage.store.insert treeId
        (.object (Document.tree d.closePage.pageIds))).ids := by
      intro id hid
      obtain ⟨p, hp⟩ := hc.pages id hid
      refine Store.mem_ids_of_at? (o := .object (.dictionary p.entries)) ?_
      rw [Store.at?_insert, if_neg (hp.ne_treeId hc), hp.page]
    rw [length_objects_finish]
    simpa [Store.ids] using (hc.nodup.subperm hids).length_le
  case h =>
    intro id hid
    obtain ⟨p, hp⟩ := hc.pages id hid
    have hd : d.finish.dictionary? id = some p.entries := by
      refine Store.dictionary?_of_at? <| at?_finish ?_
      rw [Store.at?_insert, if_neg (hp.ne_treeId hc), hp.page]
    rw [hd, Option.bind_some, Dictionary.type?, hp.type]
    rfl

end Document
end AccessReport
