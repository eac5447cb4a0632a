import AccessReport.Content.Normal
import AccessReport.Proofs.DateDisplay
import AccessReport.Proofs.Labels
import Mathlib.Data.List.Forall2

namespace AccessReport

namespace Content

@[elab_as_elim]
theorem induction {motive : Content → Prop} (null : motive .null)
    (scalar : ∀ s, motive (.scalar s))
    (sequence : ∀ items, (∀ t ∈ items, motive t) → motive (.sequence items))
    (mapping : ∀ entries, (∀ e ∈ entries, motive e.2) → motive (.mapping entries)) :
    (t : Content) → motive t
  | .null => null
  | .scalar s => scalar s
  | .sequence items => sequence items fun t ht =>
    have hlt : sizeOf t < sizeOf (Content.sequence items) :=
      Nat.lt_of_lt_of_le (List.sizeOf_lt_of_mem ht) (by simp)
    induction null scalar sequence mapping t
  | .mapping entries => mapping entries fun e he =>
    have hlt : sizeOf e.2 < sizeOf (Content.mapping entries) := by
      have hmem := List.sizeOf_lt_of_mem he
      have hentry : sizeOf e.2 ≤ sizeOf e := by
        cases e
        simp
      simp
      omega
    induction null scalar sequence mapping e.2
termination_by t => sizeOf t
decreasing_by all_goals exact hlt

theorem normalizeItems_eq (items : List Content) : normalizeItems items = items.map normalize := by
  induction items with
  | nil => rfl
  | cons t ts ih => rw [normalizeItems, ih, List.map_cons]

theorem normalizeEntries_eq (entries : List (String × Content)) :
    normalizeEntries entries = entries.map fun e => (Label.humanize e.1, normalize e.2) := by
  induction entries with
  | nil => rfl
  | cons e es ih => rw [normalizeEntries, ih, List.map_cons]

end Content

namespace Normalized

-- Nothing in a tree is absent or empty, and no text in it is still a date.
inductive Settled : Normalized → Prop
  | text {s : String} : Text.trim s.toList ≠ [] → Text.trim s.toList ≠ ['n', 'u', 'l', 'l'] →
      DateText.reformat? s = none → Settled (.scalar (.text s))
  | number (n : Json.Number) : Settled (.scalar (.number n))
  | boolean (b : Bool) : Settled (.scalar (.boolean b))
  | sequence {items : List Normalized} : items ≠ [] → (∀ t ∈ items, Settled t) →
      Settled (.sequence items)
  | mapping {entries : List (String × Normalized)} : entries ≠ [] → (∀ e ∈ entries, Settled e.2) →
      Settled (.mapping entries)

theorem settled_sentinel : sentinel.Settled :=
  .text (by decide) (by decide) (by decide)

theorem settled_display (precision : DateText.Precision) (d : Calendar.Date)
    (t : Calendar.TimeOfDay) :
    (scalar (.text (String.ofList (DateText.display precision d t)))).Settled := by
  obtain ⟨a, ⟨cs, hcs⟩, hdigit⟩ := DateText.exists_prefix_display precision d t
  refine .text ?_ ?_ (DateText.reformat?_display precision d t)
  · rw [String.toList_ofList, DateText.trim_display, ← hcs]
    exact List.cons_ne_nil _ _
  · rw [String.toList_ofList, DateText.trim_display, ← hcs]
    intro heq
    obtain ⟨rfl, _⟩ := List.cons_eq_cons.1 heq
    cases hdigit

end Normalized

namespace Content

-- A tree in its normal form, part by part.
inductive Becomes : Content → Normalized → Prop
  | null : Becomes .null .sentinel
  | absent {s : String} : Text.trim s.toList = [] ∨ Text.trim s.toList = ['n', 'u', 'l', 'l'] →
      Becomes (.scalar (.text s)) .sentinel
  | text {s : String} : Text.trim s.toList ≠ [] → Text.trim s.toList ≠ ['n', 'u', 'l', 'l'] →
      DateText.reformat? s = none → Becomes (.scalar (.text s)) (.scalar (.text s))
  | date {s shown : String} : Text.trim s.toList ≠ [] → Text.trim s.toList ≠ ['n', 'u', 'l', 'l'] →
      DateText.reformat? s = some shown → Becomes (.scalar (.text s)) (.scalar (.text shown))
  | number (n : Json.Number) : Becomes (.scalar (.number n)) (.scalar (.number n))
  | boolean (b : Bool) : Becomes (.scalar (.boolean b)) (.scalar (.boolean b))
  | noItems : Becomes (.sequence []) .sentinel
  | sequence {items : List Content} {items' : List Normalized} : items ≠ [] →
      List.Forall₂ Becomes items items' → Becomes (.sequence items) (.sequence items')
  | noEntries : Becomes (.mapping []) .sentinel
  | mapping {entries : List (String × Content)} {entries' : List (String × Normalized)} :
      entries ≠ [] → entries'.map (·.1) = entries.map (fun e => Label.humanize e.1) →
      List.Forall₂ Becomes (entries.map (·.2)) (entries'.map (·.2)) →
      Becomes (.mapping entries) (.mapping entries')

theorem isAbsent_iff {s : String} : isAbsent s = true ↔
    Text.trim s.toList = [] ∨ Text.trim s.toList = ['n', 'u', 'l', 'l'] := by
  simp [isAbsent]

theorem settled_normalizeScalar (s : Scalar) : (normalizeScalar s).Settled := by
  cases s with
  | number n => exact .number n
  | boolean b => exact .boolean b
  | text s =>
    rw [normalizeScalar]
    split
    case isTrue h => exact Normalized.settled_sentinel
    case isFalse h =>
      obtain ⟨hblank, hnull⟩ := not_or.1 (mt isAbsent_iff.2 h)
      cases hd : DateText.reformat? s with
      | none => exact .text hblank hnull hd
      | some shown =>
        obtain ⟨precision, d, t, rfl⟩ := DateText.exists_display_of_reformat? hd
        exact Normalized.settled_display precision d t

theorem becomes_normalizeScalar (s : Scalar) : Becomes (.scalar s) (normalizeScalar s) := by
  cases s with
  | number n => exact .number n
  | boolean b => exact .boolean b
  | text s =>
    rw [normalizeScalar]
    split
    case isTrue h => exact .absent (isAbsent_iff.1 h)
    case isFalse h =>
      obtain ⟨hblank, hnull⟩ := not_or.1 (mt isAbsent_iff.2 h)
      cases hd : DateText.reformat? s with
      | none => exact .text hblank hnull hd
      | some shown => exact .date hblank hnull hd

theorem normalize_sequence {items : List Content} (h : items ≠ []) :
    normalize (.sequence items) = .sequence (items.map normalize) := by
  obtain ⟨t, ts, rfl⟩ := List.exists_cons_of_ne_nil h
  rw [normalize, normalizeItems_eq]
  exact nofun

theorem normalize_mapping {entries : List (String × Content)} (h : entries ≠ []) :
    normalize (.mapping entries) =
      .mapping (entries.map fun e => (Label.humanize e.1, normalize e.2)) := by
  obtain ⟨e, es, rfl⟩ := List.exists_cons_of_ne_nil h
  rw [normalize, normalizeEntries_eq]
  exact nofun

theorem settled_normalize (t : Content) : (normalize t).Settled := by
  induction t using Content.induction with
  | null => exact Normalized.settled_sentinel
  | scalar s => exact settled_normalizeScalar s
  | sequence items ih =>
    by_cases h : items = []
    · subst h
      exact Normalized.settled_sentinel
    · rw [normalize_sequence h]
      refine .sequence (by simpa using h) fun n hn => ?_
      obtain ⟨t, ht, rfl⟩ := List.mem_map.1 hn
      exact ih t ht
  | mapping entries ih =>
    by_cases h : entries = []
    · subst h
      exact Normalized.settled_sentinel
    · rw [normalize_mapping h]
      refine .mapping (by simpa using h) fun n hn => ?_
      obtain ⟨e, he, rfl⟩ := List.mem_map.1 hn
      exact ih e he

theorem becomes_normalize (t : Content) : Becomes t (normalize t) := by
  induction t using Content.induction with
  | null => exact .null
  | scalar s => exact becomes_normalizeScalar s
  | sequence items ih =>
    by_cases h : items = []
    · subst h
      exact .noItems
    · rw [normalize_sequence h]
      refine .sequence h (List.forall₂_map_right_iff.2 ?_)
      exact List.forall₂_same.2 ih
  | mapping entries ih =>
    by_cases h : entries = []
    · subst h
      exact .noEntries
    · rw [normalize_mapping h]
      refine .mapping h (by simp) ?_
      rw [List.map_map, List.forall₂_map_left_iff, List.forall₂_map_right_iff]
      exact List.forall₂_same.2 ih

-- The normal form of a tree has the tree's shape, and nothing but labels is left to normalize in it.
theorem normalize_becomes (t : Content) : (normalize t).Settled ∧ Becomes t (normalize t) :=
  ⟨settled_normalize t, becomes_normalize t⟩

end Content

/-! ### Normal forms of normal forms -/

namespace Normalized

theorem itemsToContent_eq (items : List Normalized) :
    itemsToContent items = items.map toContent := by
  induction items with
  | nil => rfl
  | cons t ts ih => rw [itemsToContent, ih, List.map_cons]

theorem entriesToContent_eq (entries : List (String × Normalized)) :
    entriesToContent entries = entries.map fun e => (e.1, toContent e.2) := by
  induction entries with
  | nil => rfl
  | cons e es ih => rw [entriesToContent, ih, List.map_cons]

mutual

-- The labels of all entries in a tree.
def labels : Normalized → List String
  | scalar _ => []
  | sequence items => itemLabels items
  | mapping entries => entryLabels entries

def itemLabels : List Normalized → List String
  | [] => []
  | t :: ts => labels t ++ itemLabels ts

def entryLabels : List (String × Normalized) → List String
  | [] => []
  | (k, t) :: es => k :: labels t ++ entryLabels es

end

theorem itemLabels_eq (items : List Normalized) : itemLabels items = items.flatMap labels := by
  induction items with
  | nil => rfl
  | cons t ts ih => rw [itemLabels, ih, List.flatMap_cons]

theorem entryLabels_eq (entries : List (String × Normalized)) :
    entryLabels entries = entries.flatMap fun e => e.1 :: labels e.2 := by
  induction entries with
  | nil => rfl
  | cons e es ih => rw [entryLabels, ih, List.flatMap_cons]

theorem map_eq_self_iff {β : Type} {f : β → β} {l : List β} : l.map f = l ↔ ∀ x ∈ l, f x = x := by
  have h := List.map_eq_map_iff (f := f) (g := id) (l := l)
  simpa using h

-- Of a tree in normal form only the labels can change when it is normalized again.
theorem Settled.normalize_toContent_iff {n : Normalized} (h : n.Settled) :
    n.toContent.normalize = n ↔ ∀ k ∈ n.labels, Label.humanize k = k := by
  induction h with
  | text hblank hnull hdate =>
    refine iff_of_true ?_ fun _ => nofun
    have habsent := mt Content.isAbsent_iff.1 (not_or.2 ⟨hblank, hnull⟩)
    rw [toContent, Content.normalize, Content.normalizeScalar, if_neg habsent, hdate,
      Option.getD_none]
  | number n => exact iff_of_true rfl fun _ => nofun
  | boolean b => exact iff_of_true rfl fun _ => nofun
  | @sequence items hne _ ih =>
    rw [toContent, itemsToContent_eq, Content.normalize_sequence (by simpa using hne),
      Normalized.sequence.injEq, List.map_map, map_eq_self_iff, labels, itemLabels_eq,
      List.forall_mem_flatMap]
    exact forall₂_congr ih
  | @mapping entries hne _ ih =>
    rw [toContent, entriesToContent_eq, Content.normalize_mapping (by simpa using hne),
      Normalized.mapping.injEq, List.map_map, map_eq_self_iff, labels, entryLabels_eq,
      List.forall_mem_flatMap]
    refine forall₂_congr fun e he => ?_
    rw [List.forall_mem_cons, ← ih e he]
    exact Prod.mk.injEq .. |>.to_iff

end Normalized

namespace Content

mutual

-- The keys of all entries in a tree.
def keys : Content → List String
  | null => []
  | scalar _ => []
  | sequence items => itemKeys items
  | mapping entries => entryKeys entries

def itemKeys : List Content → List String
  | [] => []
  | t :: ts => keys t ++ itemKeys ts

def entryKeys : List (String × Content) → List String
  | [] => []
  | (k, t) :: es => k :: keys t ++ entryKeys es

end

theorem itemKeys_eq (items : List Content) : itemKeys items = items.flatMap keys := by
  induction items with
  | nil => rfl
  | cons t ts ih => rw [itemKeys, ih, List.flatMap_cons]

theorem entryKeys_eq (entries : List (String × Content)) :
    entryKeys entries = entries.flatMap fun e => e.1 :: keys e.2 := by
  induction entries with
  | nil => rfl
  | cons e es ih => rw [entryKeys, ih, List.flatMap_cons]

theorem labels_normalize (t : Content) : (normalize t).labels = t.keys.map Label.humanize := by
  induction t using Content.induction with
  | null => rfl
  | scalar s =>
    cases s with
    | text s =>
      rw [normalize, normalizeScalar]
      split <;> rfl
    | number n => rfl
    | boolean b => rfl
  | sequence items ih =>
    by_cases h : items = []
    · subst h
      rfl
    · rw [normalize_sequence h, Normalized.labels, Normalized.itemLabels_eq, List.flatMap_map,
        keys, itemKeys_eq, List.map_flatMap]
      exact List.flatMap_congr ih
  | mapping entries ih =>
    by_cases h : entries = []
    · subst h
      rfl
    · rw [normalize_mapping h, Normalized.labels, Normalized.entryLabels_eq, List.flatMap_map,
        keys, entryKeys_eq, List.map_flatMap]
      refine List.flatMap_congr fun e he => ?_
      rw [ih e he, List.map_cons]

-- To normalize a tree again changes nothing just if no label of its keys has anything behind its
-- first character that has a lower case.
theorem normalize_normalize_iff (t : Content) : (normalize t).toContent.normalize = normalize t ↔
    ∀ key ∈ t.keys, ∀ c ∈ (Label.humanize key).toList.tail, Case.lowerChar c = [c] := by
  rw [(settled_normalize t).normalize_toContent_iff, labels_normalize, List.forall_mem_map]
  exact forall₂_congr fun key _ => Label.humanize_humanize_iff

-- An upper case of two characters is not stable.
example : Label.humanize "ß" = "SS" ∧ Label.humanize "SS" = "Ss" := by decide +kernel

end Content
end AccessReport
