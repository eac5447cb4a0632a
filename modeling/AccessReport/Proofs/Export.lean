import AccessReport.Proofs.NormalForm
import Mathlib.Data.List.Induction
import Mathlib.Data.List.Nodup

namespace AccessReport

namespace Json

variable {β : Type}

theorem keys_putEntry (key : String) (value : β) (es : List (String × β)) :
    (putEntry key value es).map (·.1) =
      if key ∈ es.map (·.1) then es.map (·.1) else es.map (·.1) ++ [key] := by
  induction es with
  | nil => simp [putEntry]
  | cons e es ih =>
    obtain ⟨k, v⟩ := e
    by_cases hk : k = key
    · simp [putEntry, hk]
    · have hk' : ¬key = k := Ne.symm hk
      by_cases hm : key ∈ es.map (·.1) <;> simp_all [putEntry]

theorem putEntry_of_notMem {key : String} {value : β} {es : List (String × β)}
    (h : key ∉ es.map (·.1)) : putEntry key value es = es ++ [(key, value)] := by
  induction es with
  | nil => rfl
  | cons e es ih =>
    obtain ⟨k, v⟩ := e
    rw [List.map_cons, List.mem_cons, not_or] at h
    rw [putEntry, if_neg (Ne.symm h.1), ih h.2, List.cons_append]

end Json

namespace Normalized

@[elab_as_elim]
theorem induction {motive : Normalized → Prop} (scalar : ∀ s, motive (.scalar s))
    (sequence : ∀ items, (∀ t ∈ items, motive t) → motive (.sequence items))
    (mapping : ∀ entries, (∀ e ∈ entries, motive e.2) → motive (.mapping entries)) :
    (t : Normalized) → motive t
  | .scalar s => scalar s
  | .sequence items => sequence items fun t ht =>
    have hlt : sizeOf t < sizeOf (Normalized.sequence items) :=
      Nat.lt_of_lt_of_le (List.sizeOf_lt_of_mem ht) (by simp)
    induction scalar sequence mapping t
  | .mapping entries => mapping entries fun e he =>
    have hlt : sizeOf e.2 < sizeOf (Normalized.mapping entries) := by
      have hmem := List.sizeOf_lt_of_mem he
      have hentry : sizeOf e.2 ≤ sizeOf e := by
        cases e
        simp
      simp
      omega
    induction scalar sequence mapping e.2
termination_by t => sizeOf t
decreasing_by all_goals exact hlt

theorem itemsToJson_eq (items : List Normalized) : itemsToJson items = items.map toJson := by
  induction items with
  | nil => rfl
  | cons t ts ih => rw [itemsToJson, ih, List.map_cons]

theorem entriesToJson_eq (before : List (String × Json.Value))
    (entries : List (String × Normalized)) :
    entriesToJson before entries =
      entries.foldl (fun es e => Json.putEntry e.1 e.2.toJson es) before := by
  induction entries generalizing before with
  | nil => rfl
  | cons e es ih => rw [entriesToJson, ih, List.foldl_cons]

-- What a mapping is exported as.
def fields (entries : List (String × Normalized)) : List (String × Json.Value) :=
  entriesToJson [] entries

variable {entries : List (String × Normalized)}

theorem fields_concat (e : String × Normalized) :
    fields (entries ++ [e]) = Json.putEntry e.1 e.2.toJson (fields entries) := by
  rw [fields, fields, entriesToJson_eq, entriesToJson_eq, List.foldl_concat]

-- Each label stays where it came first.
theorem keys_fields : (fields entries).map (·.1) = (entries.map (·.1)).eraseDups := by
  induction entries using List.reverseRecOn with
  | nil => rfl
  | append_singleton entries e ih =>
    rw [fields_concat, Json.keys_putEntry, ih, List.map_append, List.eraseDups_append]
    by_cases h : e.1 ∈ entries.map (·.1) <;> simp [h, List.removeAll, List.eraseDups_cons]

theorem nodup_fields : ((fields entries).map (·.1)).Nodup := by
  induction entries using List.reverseRecOn with
  | nil => exact List.nodup_nil
  | append_singleton entries e ih =>
    rw [fields_concat, Json.keys_putEntry]
    split
    case isTrue => exact ih
    case isFalse h =>
      rw [← List.concat_eq_append]
      exact ih.concat h

-- Under each label the last entry is exported.
theorem lookup_fields (key : String) :
    (fields entries).lookup key = (entries.reverse.lookup key).map toJson := by
  induction entries using List.reverseRecOn with
  | nil => rfl
  | append_singleton entries e ih =>
    rw [fields_concat, Json.lookup_putEntry, ih, List.reverse_concat, List.lookup_cons]
    by_cases h : key = e.1
    · simp [h]
    · simp [h, beq_eq_false_iff_ne.2 h]

theorem isSome_lookup_reverse (key : String) :
    (entries.reverse.lookup key).isSome = (entries.lookup key).isSome := by
  rw [Bool.eq_iff_iff, List.lookup_isSome_iff, List.lookup_isSome_iff]
  simp only [List.mem_reverse]

-- What is looked up is what is exported where the first and the last entry under a label are alike.
theorem lookup_fields_eq_iff (key : String) :
    (fields entries).lookup key = ((mapping entries).get? key).map toJson ↔
      ∀ first last, entries.lookup key = some first → entries.reverse.lookup key = some last →
        first.toJson = last.toJson := by
  have hs : (entries.reverse.lookup key).isSome = (entries.lookup key).isSome :=
    isSome_lookup_reverse key
  rw [lookup_fields, get?]
  cases hf : entries.lookup key with
  | none =>
    have hl : entries.reverse.lookup key = none := by simpa [hf] using hs
    simp [hl]
  | some first =>
    obtain ⟨last, hl⟩ := Option.isSome_iff_exists.1 (hs.trans (by rw [hf]; rfl))
    simp [hl, eq_comm]

theorem fields_of_nodup (h : (entries.map (·.1)).Nodup) :
    fields entries = entries.map fun e => (e.1, e.2.toJson) := by
  induction entries using List.reverseRecOn with
  | nil => rfl
  | append_singleton entries e ih =>
    rw [List.map_append, List.nodup_append] at h
    obtain ⟨hn, -, hne⟩ := h
    have hkey : e.1 ∉ (fields entries).map (·.1) := by
      rw [ih hn, List.map_map]
      exact fun hm => hne e.1 hm e.1 (List.mem_singleton_self _) rfl
    rw [fields_concat, Json.putEntry_of_notMem hkey, ih hn, List.map_append]
    rfl

-- No mapping has two entries under one label.
inductive Distinct : Normalized → Prop
  | scalar (s : Scalar) : Distinct (.scalar s)
  | sequence {items : List Normalized} : (∀ t ∈ items, Distinct t) → Distinct (.sequence items)
  | mapping {entries : List (String × Normalized)} : (entries.map (·.1)).Nodup →
      (∀ e ∈ entries, Distinct e.2) → Distinct (.mapping entries)

theorem distinct_sequence_iff {items : List Normalized} :
    (sequence items).Distinct ↔ ∀ t ∈ items, t.Distinct :=
  ⟨fun | .sequence h => h, .sequence⟩

theorem distinct_mapping_iff :
    (mapping entries).Distinct ↔ (entries.map (·.1)).Nodup ∧ ∀ e ∈ entries, e.2.Distinct :=
  ⟨fun | .mapping hn h => ⟨hn, h⟩, fun h => .mapping h.1 h.2⟩

end Normalized

namespace Content

theorem ofItems_eq (items : List Json.Value) : ofItems items = items.map ofJson := by
  induction items with
  | nil => rfl
  | cons v vs ih => rw [ofItems, ih, List.map_cons]

theorem ofEntries_eq (entries : List (String × Json.Value)) :
    ofEntries entries = entries.map fun e => (e.1, ofJson e.2) := by
  induction entries with
  | nil => rfl
  | cons e es ih => rw [ofEntries, ih, List.map_cons]

-- No mapping has two keys with one label.
inductive Unambiguous : Content → Prop
  | null : Unambiguous .null
  | scalar (s : Scalar) : Unambiguous (.scalar s)
  | sequence {items : List Content} : (∀ t ∈ items, Unambiguous t) → Unambiguous (.sequence items)
  | mapping {entries : List (String × Content)} :
      (entries.map fun e => Label.humanize e.1).Nodup → (∀ e ∈ entries, Unambiguous e.2) →
      Unambiguous (.mapping entries)

theorem unambiguous_sequence_iff {items : List Content} :
    (sequence items).Unambiguous ↔ ∀ t ∈ items, t.Unambiguous :=
  ⟨fun | .sequence h => h, .sequence⟩

theorem unambiguous_mapping_iff {entries : List (String × Content)} :
    (mapping entries).Unambiguous ↔
      (entries.map fun e => Label.humanize e.1).Nodup ∧ ∀ e ∈ entries, e.2.Unambiguous :=
  ⟨fun | .mapping hn h => ⟨hn, h⟩, fun h => .mapping h.1 h.2⟩

theorem distinct_normalize_iff (t : Content) : (normalize t).Distinct ↔ t.Unambiguous := by
  induction t using Content.induction with
  | null => exact iff_of_true (.scalar _) .null
  | scalar s =>
    refine iff_of_true ?_ (.scalar s)
    obtain ⟨s', hs'⟩ : ∃ s', normalize (.scalar s) = .scalar s' := by
      cases s with
      | text s =>
        rw [normalize, normalizeScalar]
        split
        · exact ⟨_, rfl⟩
        · exact ⟨_, rfl⟩
      | number n => exact ⟨_, rfl⟩
      | boolean b => exact ⟨_, rfl⟩
    rw [hs']
    exact .scalar s'
  | sequence items ih =>
    by_cases h : items = []
    · subst h
      exact iff_of_true (.scalar _) (.sequence (by simp))
    · rw [normalize_sequence h, Normalized.distinct_sequence_iff, unambiguous_sequence_iff,
        List.forall_mem_map]
      exact forall₂_congr ih
  | mapping entries ih =>
    by_cases h : entries = []
    · subst h
      exact iff_of_true (.scalar _) (.mapping List.nodup_nil (by simp))
    · rw [normalize_mapping h, Normalized.distinct_mapping_iff, unambiguous_mapping_iff,
        List.map_map, List.forall_mem_map]
      exact and_congr_right fun _ => forall₂_congr ih

end Content

namespace Normalized

open Content

theorem ofJson_mapping (entries : List (String × Normalized)) :
    ofJson (mapping entries).toJson =
      .mapping ((fields entries).map fun e => (e.1, ofJson e.2)) := by
  rw [toJson, ofJson, ofEntries_eq]
  rfl

-- The export of a tree is read back as the tree just if it has no label twice in one mapping.
theorem ofJson_toJson_iff (t : Normalized) : ofJson t.toJson = t.toContent ↔ t.Distinct := by
  induction t using Normalized.induction with
  | scalar s =>
    refine iff_of_true ?_ (.scalar s)
    cases s <;> rfl
  | sequence items ih =>
    rw [toJson, ofJson, ofItems_eq, itemsToJson_eq, toContent, itemsToContent_eq,
      Content.sequence.injEq, List.map_map, List.map_inj_left, distinct_sequence_iff]
    exact forall₂_congr ih
  | mapping entries ih =>
    rw [ofJson_mapping, toContent, entriesToContent_eq, Content.mapping.injEq,
      distinct_mapping_iff]
    constructor
    case mp =>
      intro h
      have hkeys : (fields entries).map (·.1) = entries.map (·.1) := by
        simpa [Function.comp_def] using congrArg (List.map (·.1)) h
      have hn : (entries.map (·.1)).Nodup := hkeys ▸ nodup_fields
      rw [fields_of_nodup hn, List.map_map, List.map_inj_left] at h
      exact ⟨hn, fun e he => (ih e he).1 (congrArg Prod.snd (h e he))⟩
    case mpr =>
      rintro ⟨hn, h⟩
      rw [fields_of_nodup hn, List.map_map, List.map_inj_left]
      exact fun e he => congrArg (Prod.mk e.1) ((ih e he).2 (h e he))

end Normalized

namespace Content

-- The export of a normal form keeps everything just if no mapping has two keys with one label.
-- Where labels meet in a mapping, the first entry is looked up and the last one is exported.
theorem normalize_export (t : Content) :
    (ofJson (normalize t).toJson = (normalize t).toContent ↔ t.Unambiguous) ∧
      ∀ entries, ∃ fields, (Normalized.mapping entries).toJson = .object fields ∧
        fields.map (·.1) = (entries.map (·.1)).eraseDups ∧
        (∀ key, fields.lookup key = (entries.reverse.lookup key).map Normalized.toJson) ∧
        ((∀ key, fields.lookup key =
            ((Normalized.mapping entries).get? key).map Normalized.toJson) ↔
          ∀ key first last, entries.lookup key = some first →
            entries.reverse.lookup key = some last → first.toJson = last.toJson) := by
  refine ⟨(Normalized.ofJson_toJson_iff _).trans (distinct_normalize_iff t), fun entries => ?_⟩
  refine ⟨Normalized.fields entries, rfl, Normalized.keys_fields, Normalized.lookup_fields, ?_⟩
  exact forall_congr' Normalized.lookup_fields_eq_iff

-- Two keys with one label: one of the entries is lost.
example : Label.humanize "a_b" = "A b" ∧ Label.humanize "aB" = "A b" := by decide +kernel

end Content
end AccessReport
