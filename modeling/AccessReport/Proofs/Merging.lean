import AccessReport.Proofs.Sound

namespace AccessReport

open Pdf

variable {α : Type}

namespace Pdf

-- A page dictionary with the tree of this document above it.
def Indirect.adopted : Indirect α → Indirect α
  | .object (.dictionary d) =>
    .object (.dictionary (Dictionary.set d "Parent" (.reference Document.treeId)))
  | o => o

theorem Indirect.adopted_adopted (o : Indirect α) : o.adopted.adopted = o.adopted := by
  cases o with
  | object o => cases o <;> simp [adopted, Dictionary.set_set]
  | stream s => rfl

namespace Dictionary

-- The objects that a page may draw lie in two dictionaries, one in the other.
theorem figures_eq_or (page : Dictionary α) :
    page.figures = [] ∨ ∃ resources : Dictionary α,
      page.get? "Resources" = some (.dictionary resources) ∧
      resources.get? "XObject" = some (.dictionary page.figures) := by
  unfold figures
  rcases page.get? "Resources" with _ | o
  · exact .inl rfl
  · cases o with
    | dictionary resources =>
      cases hx : get? resources "XObject" with
      | none => simp [Object.dictionary?, hx]
      | some o => cases o <;> simp [Object.dictionary?, hx]
    | _ => exact .inl rfl

theorem mem_entryReferences_of_figures {page : Dictionary α} {name : String} {id : ObjectId}
    (hn : Bytes.ofText name ≠ parentKey) (h : page.figures.get? name = some (.reference id)) :
    id ∈ Object.entryReferences page := by
  rcases figures_eq_or page with hf | ⟨resources, hr, hx⟩
  · simp [hf] at h
  · refine Object.mem_entryReferences hr (by decide) ?_
    refine Object.mem_entryReferences (d := resources) hx (by decide) ?_
    exact Object.mem_entryReferences h hn (by simp [Object.references])

theorem figures_renumberEntries (f : ObjectId → ObjectId) (page : Dictionary α) :
    figures (Object.renumberEntries f page) = Object.renumberEntries f page.figures := by
  have hr : Bytes.ofText "Resources" ≠ parentKey := by decide
  have hx : Bytes.ofText "XObject" ≠ parentKey := by decide
  simp only [figures, Object.get?_renumberEntries f _ hr]
  rcases page.get? "Resources" with _ | o
  · rfl
  · cases o with
    | dictionary resources =>
      simp only [Option.map_some, Option.bind_some, Object.renumber, Object.dictionary?,
        Object.get?_renumberEntries f _ hx]
      rcases get? resources "XObject" with _ | o
      · rfl
      · cases o <;> rfl
    | _ => rfl

end Dictionary

namespace Store

variable {s : Store α}

theorem at?_adopt (s : Store α) (id k : ObjectId) :
    (Document.adopt s id).at? k = if k = id then (s.at? k).map Indirect.adopted else s.at? k := by
  unfold Document.adopt
  split
  case h_1 d h =>
    rw [at?_insert]
    split
    case isTrue hk => simp [hk, h, Indirect.adopted]
    case isFalse => rfl
  case h_2 h =>
    split
    case isTrue hk =>
      subst hk
      cases ho : s.at? k with
      | none => rfl
      | some o =>
        cases o with
        | object o => cases o <;> simp_all [Indirect.adopted]
        | stream s => rfl
    case isFalse => rfl

theorem at?_foldl_adopt (s : Store α) (ids : List ObjectId) (k : ObjectId) :
    (ids.foldl Document.adopt s).at? k =
      if k ∈ ids then (s.at? k).map Indirect.adopted else s.at? k := by
  induction ids generalizing s with
  | nil => simp
  | cons id ids ih =>
    rw [List.foldl_cons, ih, at?_adopt]
    by_cases hk : k = id
    · by_cases hm : k ∈ ids <;>
        simp [hk ▸ hm, hk, Function.comp_def, Indirect.adopted_adopted]
    · simp [hk]

theorem tidy_adopt (h : s.Tidy) (id : ObjectId) : (Document.adopt s id).Tidy := by
  unfold Document.adopt
  split
  case h_1 d ho =>
    intro k hk
    simp only [insert, Store.ids, List.map_cons, List.mem_cons] at hk
    rcases hk with rfl | hk
    · exact h.number_le ho
    · obtain ⟨e, he, rfl⟩ := List.mem_map.1 hk
      exact h _ <| List.mem_map_of_mem (List.mem_filter.1 he).1
  case h_2 => exact h

theorem trailer_adopt (s : Store α) (id : ObjectId) :
    (Document.adopt s id).trailer = s.trailer := by
  unfold Document.adopt
  split <;> rfl

theorem tidy_foldl_adopt (h : s.Tidy) (ids : List ObjectId) :
    (ids.foldl Document.adopt s).Tidy := by
  induction ids generalizing s with
  | nil => exact h
  | cons id ids ih => exact ih <| tidy_adopt h id

theorem trailer_foldl_adopt (s : Store α) (ids : List ObjectId) :
    (ids.foldl Document.adopt s).trailer = s.trailer := by
  induction ids generalizing s with
  | nil => rfl
  | cons id ids ih => exact (ih _).trans <| trailer_adopt s id

end Store

namespace Indirect

variable [Coordinate α] (o : Indirect α)

theorem renumber_adopted (f : ObjectId → ObjectId) : o.adopted.renumber f = o.renumber f := by
  cases o with
  | object o =>
    cases o <;> simp [adopted, renumber, Object.renumber, Object.renumberEntries_set_parent]
  | stream s => rfl

theorem shape_adopted : o.adopted.shape = o.shape :=
  renumber_adopted ..

theorem children_adopted : o.adopted.children = o.children := by
  rw [children, renumber_adopted, children]

end Indirect
end Pdf

namespace Document

variable [Coordinate α] {d other : Document α}

-- The copy of the pages of another document.
def copier (d other : Document α) : Copier α :=
  Copier.copyAll other.store ⟨[], d.store⟩ other.pageIds

def copied (d other : Document α) : List ObjectId :=
  other.pageIds.map (d.copier other).numbering.apply

def merged (d other : Document α) : Document α :=
  { d with
    store := (d.copied other).foldl adopt (d.copier other).target
    pageIds := d.pageIds ++ d.copied other }

theorem merge_pageCount (h : d.current = none) :
    (d.merge other d.pageCount).2 = d.merged other.closePage := by
  simp [merge, merged, copied, copier, pageCount, closePage_of_none h, h]

theorem faithful_copier (h : d.store.Tidy) : Copier.Faithful other.store (d.copier other) :=
  (Copier.Faithful.fresh h).copyAll _

section Merged

variable {id : ObjectId} {o : Indirect α}

theorem pageIds_subset_copier : other.pageIds ⊆ (d.copier other).numbering.ids :=
  Copier.subset_ids_copyAll _

-- Copies lie behind all that was there.
theorem lt_number_copier (hid : id ∈ (d.copier other).numbering.ids) :
    d.store.maxId < ((d.copier other).numbering.apply id).number := by
  have h := Numbering.apply_mem hid
  rw [copier, Copier.numbering_copyAll, List.nil_append] at h
  exact (Copier.number_numbered h).1

theorem grows_merged (h : d.store.Tidy) : d.store.Grows (d.merged other).store where
  tidy    := Store.tidy_foldl_adopt (faithful_copier h).tidy _
  trailer := Store.trailer_foldl_adopt ..
  keeps   := by
    intro id o ho
    have hid : id ∉ d.copied other := by
      intro hm
      obtain ⟨k, hk, rfl⟩ := List.mem_map.1 hm
      have := h.number_le ho
      have := lt_number_copier (pageIds_subset_copier (d := d) hk)
      omega
    rw [merged, Store.at?_foldl_adopt, if_neg hid]
    exact Copier.keeps_copyAll h _ _ _ ho

-- A copied object differs from its source in numbers and in the way up only.
theorem at?_merged (h : d.store.Tidy) (hid : id ∈ (d.copier other).numbering.ids)
    (ho : other.store.at? id = some o) (hs : o.Solid) :
    ∃ o', (d.merged other).store.at? ((d.copier other).numbering.apply id) = some o' ∧
      (o' = o.renumber (d.copier other).numbering.apply ∨
        o' = (o.renumber (d.copier other).numbering.apply).adopted) := by
  have ht := (faithful_copier h).at?_apply hid
  rw [sourceObject_of_at? ho hs] at ht
  rw [merged, Store.at?_foldl_adopt, ht]
  split
  · exact ⟨_, rfl, .inr rfl⟩
  · exact ⟨_, rfl, .inl rfl⟩

theorem alike_merged (h : d.store.Tidy) (hid : id ∈ (d.copier other).numbering.ids)
    (hw : other.store.Whole id) :
    other.store.Alike (d.merged other).store id ((d.copier other).numbering.apply id) := by
  refine ⟨fun a b => other.store.Whole a ∧ a ∈ (d.copier other).numbering.ids ∧
    b = (d.copier other).numbering.apply a, ?_, hw, hid, rfl⟩
  rintro a _ ⟨ha, hm, rfl⟩
  obtain ⟨o, ho, hs, hc⟩ := Store.Whole.exists_at? ha
  obtain ⟨o', ho', hr⟩ := at?_merged h hm ho hs
  have hshape : o'.shape = o.shape := by
    rcases hr with rfl | rfl <;> simp [Indirect.shape_adopted, Indirect.shape_renumber]
  have hchildren : o'.children = o.children.map (d.copier other).numbering.apply := by
    rcases hr with rfl | rfl <;> simp [Indirect.children_adopted, Indirect.children_renumber]
  refine ⟨o, o', ho, ho', hs, hshape.symm, ?_⟩
  rw [hchildren, List.forall₂_map_right_iff, List.forall₂_same]
  intro r hr
  have hmem := (faithful_copier h).closed a hm r
  rw [sourceObject_of_at? ho hs] at hmem
  exact ⟨hc r hr, hmem <| Indirect.children_subset _ hr, rfl⟩

namespace PageRecord.IsAt

variable {p : PageRecord α}

-- A page as it is in the document that it was copied to.
def merged (p : PageRecord α) (f : ObjectId → ObjectId) : PageRecord α where
  entries := Dictionary.set (Object.renumberEntries f p.entries) "Parent" (.reference treeId)
  content := f p.content
  stream  := Stream.make (Object.renumberEntries f p.stream.entries) p.stream.body
    p.stream.compressible
  marks   := p.marks
  size    := p.size

theorem get?_merged {f : ObjectId → ObjectId} {key : String} {v : Object α}
    (hk : Bytes.ofText key ≠ parentKey) (h : p.entries.get? key = some v) :
    (merged p f).entries.get? key = some (v.renumber f) := by
  rw [merged, Dictionary.get?_set_of_ne _ _ hk, Object.get?_renumberEntries f _ hk, h]
  rfl

theorem figures_merged {f : ObjectId → ObjectId} :
    (merged p f).entries.figures = Object.renumberEntries f p.entries.figures := by
  have hr : Bytes.ofText "Resources" ≠ Bytes.ofText "Parent" := by decide
  rw [← Dictionary.figures_renumberEntries, Dictionary.figures, merged,
    Dictionary.get?_set_of_ne _ _ hr, Dictionary.figures]

end PageRecord.IsAt

namespace PageRecord.LiesIn

open IsAt (get?_merged)

variable {p : PageRecord α}

theorem mem_copier (h : p.LiesIn other.store id) (hid : id ∈ (d.copier other).numbering.ids)
    (hd : d.store.Tidy) {r : ObjectId} (hr : r ∈ Object.entryReferences p.entries) :
    r ∈ (d.copier other).numbering.ids := by
  refine (faithful_copier hd).closed id hid r ?_
  rw [sourceObject_of_at? h.page (by simp)]
  simpa [Indirect.references, Object.references] using hr

theorem liesIn_merged (h : p.LiesIn other.store id) (hid : id ∈ other.pageIds)
    (hd : d.store.Tidy) :
    (IsAt.merged p (d.copier other).numbering.apply).LiesIn (d.merged other).store
      ((d.copier other).numbering.apply id) := by
  have hm : id ∈ (d.copier other).numbering.ids := pageIds_subset_copier hid
  constructor
  case page =>
    have hc : (d.copier other).numbering.apply id ∈ d.copied other := List.mem_map_of_mem hid
    rw [Document.merged, Store.at?_foldl_adopt, if_pos hc,
      (faithful_copier hd).at?_apply hm, sourceObject_of_at? h.page (by simp)]
    simp [Indirect.renumber, Object.renumber, Indirect.adopted, IsAt.merged]
  case type =>
    rw [get?_merged (by decide) h.type]
    simp [Object.named, Object.renumber]
  case parent => exact Dictionary.get?_set_self ..
  case box =>
    rw [get?_merged (by decide) h.box]
    rfl
  case contents =>
    rw [get?_merged (by decide) h.contents]
    simp [Object.renumber, IsAt.merged]
  case stream =>
    have hc : p.content ∈ (d.copier other).numbering.ids := by
      refine h.mem_copier hm hd <| Object.mem_entryReferences h.contents (by decide) ?_
      simp [Object.references]
    obtain ⟨o, ho, hr⟩ := at?_merged hd hc h.stream (Indirect.solid_stream _)
    rcases hr with rfl | rfl <;> exact ho
  case drawing => exact h.drawing

end PageRecord.LiesIn

namespace PageRecord.IsAt

variable {p : PageRecord α}

-- What is drawn on a page is copied with it.
theorem alike_figure (h : p.IsAt other.store id) (hid : id ∈ (d.copier other).numbering.ids)
    (hd : d.store.Tidy) {name : String} {matrix : Matrix α}
    (hm : .figure name matrix ∈ p.marks) :
    ∃ a b, Bytes.ofText name ≠ parentKey ∧ p.entries.figures.get? name = some (.reference a) ∧
      (merged p (d.copier other).numbering.apply).entries.figures.get? name =
        some (.reference b) ∧ other.store.Alike (d.merged other).store a b := by
  obtain ⟨a, hn, hf, hw⟩ := h.bound name matrix hm
  have ha := h.liesIn.mem_copier hid hd <| Dictionary.mem_entryReferences_of_figures hn hf
  refine ⟨a, _, hn, hf, ?_, alike_merged hd ha hw⟩
  rw [figures_merged, Object.get?_renumberEntries _ _ hn, hf]
  simp [Object.renumber]

theorem isAt_merged (h : p.IsAt other.store id) (hid : id ∈ other.pageIds) (hd : d.store.Tidy) :
    (merged p (d.copier other).numbering.apply).IsAt (d.merged other).store
      ((d.copier other).numbering.apply id) :=
  { h.liesIn.liesIn_merged hid hd with
    bound := by
      intro name matrix hf
      obtain ⟨a, b, hn, -, hb, ha⟩ := h.alike_figure (pageIds_subset_copier hid) hd hf
      exact ⟨b, hn, hb, ha.right⟩ }

theorem sheet_merged (h : p.IsAt other.store id) (hid : id ∈ other.pageIds) (hd : d.store.Tidy) :
    (d.merged other).store.sheet ((d.copier other).numbering.apply id) = other.store.sheet id := by
  have hm : id ∈ (d.copier other).numbering.ids := pageIds_subset_copier hid
  rw [(h.isAt_merged hid hd).sheet_eq, h.sheet_eq]
  congr 1
  apply List.map_congr_left
  intro m hf
  cases m with
  | text => rfl
  | figure name matrix =>
    obtain ⟨a, b, -, ha, hb, hab⟩ := h.alike_figure hm hd hf
    simp [Mark.shown, ha, hb, Object.reference?, hab.unfolding_eq]

end PageRecord.IsAt
end Merged

theorem nodup_copied (h : d.store.Tidy) (ho : other.pageIds.Nodup) : (d.copied other).Nodup :=
  ho.map_on fun _ ha _ hb he => (faithful_copier h).apply_injective
    (pageIds_subset_copier ha) (pageIds_subset_copier hb) he

theorem Sound.merged (h : d.Sound) (ho : other.Sound) : (d.merged other).Sound := by
  have hg : d.store.Grows (d.merged other).store := grows_merged h.tidy
  refine { h.grow hg with nodup := ?_, pages := ?_ }
  · refine List.nodup_append.2 ⟨h.nodup, nodup_copied h.tidy ho.nodup, ?_⟩
    rintro a ha b hb rfl
    obtain ⟨k, hk, rfl⟩ := List.mem_map.1 hb
    exact h.notMem_pageIds (lt_number_copier (pageIds_subset_copier hk)) ha
  · intro id hid
    rcases List.mem_append.1 hid with hid | hid
    · exact (h.pages id hid).keeps hg.keeps
    · obtain ⟨k, hk, rfl⟩ := List.mem_map.1 hid
      obtain ⟨p, hp⟩ := ho.pages k hk
      exact ⟨_, hp.isAt_merged hk h.tidy⟩

theorem finished_merged (h : d.Sound) (ho : other.Sound) :
    (d.merged other).finished = d.finished ++ other.finished := by
  have hold : d.pageIds.map (d.merged other).store.sheet = d.finished :=
    h.finished_grow (grows_merged h.tidy)
  have hnew : (d.copied other).map (d.merged other).store.sheet = other.finished := by
    rw [copied, List.map_map]
    refine List.map_congr_left fun id hid => ?_
    obtain ⟨p, hp⟩ := ho.pages id hid
    exact hp.sheet_merged hid h.tidy
  rw [finished, merged, List.map_append]
  exact congrArg₂ _ hold hnew

-- The pages of all parts in their order, each as it was in its part.
theorem join_spec (layout : Options α) {parts : List (Document α)} (h : ∀ p ∈ parts, p.Sound) :
    (join layout parts).Sound ∧ (join layout parts).current = none ∧
      (join layout parts).finished = parts.flatMap sheets := by
  have go (d : Document α) (hd : d.Sound) (hc : d.current = none) :
      (parts.foldl (fun d part => (d.merge part d.pageCount).2) d).Sound ∧
      (parts.foldl (fun d part => (d.merge part d.pageCount).2) d).current = none ∧
      (parts.foldl (fun d part => (d.merge part d.pageCount).2) d).finished =
        d.finished ++ parts.flatMap sheets := by
    induction parts generalizing d with
    | nil => simpa using ⟨hd, hc⟩
    | cons p parts ih =>
      have hp := (h p List.mem_cons_self).closePage
      have hf := finished_merged hd hp
      rw [(h p List.mem_cons_self).finished_closePage] at hf
      simpa [merge_pageCount hc, hf] using
        ih (fun q hq => h q (List.mem_cons_of_mem _ hq)) _ (hd.merged hp) hc
  exact go (empty layout) (sound_empty layout) rfl

theorem sheets_join (layout : Options α) {parts : List (Document α)} (h : ∀ p ∈ parts, p.Sound) :
    (join layout parts).sheets = parts.flatMap sheets := by
  have ⟨_, hc, hf⟩ := join_spec layout h
  rw [sheets_of_none hc, hf]

end Document
end AccessReport
