import AccessReport.Proofs.Unfolding
import Mathlib.Data.List.Induction
import Mathlib.Logic.Relation

namespace AccessReport
namespace Pdf

variable {α : Type}

/-! ### What a copy of an object is -/

namespace Object

-- A value with nothing inside that could refer to anything.
def isAtom : Object α → Bool
  | array _ | dictionary _ | reference _ => false
  | _ => true

@[elab_as_elim]
theorem induction {motive : Object α → Prop} (atom : ∀ o : Object α, o.isAtom → motive o)
    (array : ∀ items, (∀ o ∈ items, motive o) → motive (.array items))
    (dictionary : ∀ entries, (∀ e ∈ entries, motive e.2) → motive (.dictionary entries))
    (reference : ∀ id, motive (.reference id)) : (o : Object α) → motive o
  | .array items => array items fun o ho =>
    have hlt : sizeOf o < sizeOf (Object.array items) :=
      Nat.lt_of_lt_of_le (List.sizeOf_lt_of_mem ho) (by simp)
    induction atom array dictionary reference o
  | .dictionary entries => dictionary entries fun e he =>
    have hlt : sizeOf e.2 < sizeOf (Object.dictionary entries) := by
      have hmem := List.sizeOf_lt_of_mem he
      have hentry : sizeOf e.2 ≤ sizeOf e := by
        cases e
        simp
      simp
      omega
    induction atom array dictionary reference e.2
  | .reference id => reference id
  | .null => atom _ rfl
  | .boolean _ => atom _ rfl
  | .integer _ => atom _ rfl
  | .real _ => atom _ rfl
  | .name _ => atom _ rfl
  | .string .. => atom _ rfl
termination_by o => sizeOf o
decreasing_by all_goals exact hlt

-- All entries but the ways up.
def ownEntries (entries : Dictionary α) : Dictionary α :=
  entries.filter (·.1 ≠ parentKey)

theorem ownEntries_cons (key : Bytes) (o : Object α) (entries : Dictionary α) :
    ownEntries ((key, o) :: entries) =
      if key = parentKey then ownEntries entries else (key, o) :: ownEntries entries := by
  by_cases h : key = parentKey <;> simp [ownEntries, h]

theorem renumber_atom {o : Object α} (h : o.isAtom) (f : ObjectId → ObjectId) :
    o.renumber f = o := by
  cases o <;> simp_all [isAtom, renumber]

theorem renumberItems_eq (f : ObjectId → ObjectId) (items : List (Object α)) :
    renumberItems f items = items.map (renumber f) := by
  induction items with
  | nil => simp [renumberItems]
  | cons o os ih => rw [renumberItems, ih, List.map_cons]

theorem renumberEntries_eq (f : ObjectId → ObjectId) (entries : Dictionary α) :
    renumberEntries f entries = (ownEntries entries).map fun e => (e.1, e.2.renumber f) := by
  induction entries with
  | nil => simp [renumberEntries, ownEntries]
  | cons e es ih =>
    obtain ⟨key, o⟩ := e
    rw [renumberEntries, ih, ownEntries_cons]
    split <;> rfl

theorem itemReferences_eq (items : List (Object α)) :
    itemReferences items = items.flatMap references := by
  induction items with
  | nil => simp [itemReferences]
  | cons o os ih => rw [itemReferences, ih, List.flatMap_cons]

theorem entryReferences_eq (entries : Dictionary α) :
    entryReferences entries = (ownEntries entries).flatMap (·.2.references) := by
  induction entries with
  | nil => simp [entryReferences, ownEntries]
  | cons e es ih =>
    obtain ⟨key, o⟩ := e
    rw [entryReferences, ih, ownEntries_cons]
    split <;> rfl

-- An object with each reference renamed, and without the ways up at any depth.
inductive Copied (f : ObjectId → ObjectId) : Object α → Object α → Prop
  | atom {o : Object α} : o.isAtom → Copied f o o
  | array {items items' : List (Object α)} : List.Forall₂ (Copied f) items items' →
      Copied f (.array items) (.array items')
  | dictionary {entries entries' : Dictionary α} :
      entries'.map (·.1) = (ownEntries entries).map (·.1) →
      List.Forall₂ (Copied f) ((ownEntries entries).map (·.2)) (entries'.map (·.2)) →
      Copied f (.dictionary entries) (.dictionary entries')
  | reference (id : ObjectId) : Copied f (.reference id) (.reference (f id))

theorem copied_renumber (f : ObjectId → ObjectId) (o : Object α) : Copied f o (o.renumber f) := by
  induction o using Object.induction with
  | atom o h =>
    rw [renumber_atom h]
    exact .atom h
  | array items ih =>
    rw [renumber, renumberItems_eq]
    exact .array (List.forall₂_map_right_iff.2 (List.forall₂_same.2 ih))
  | dictionary entries ih =>
    rw [renumber, renumberEntries_eq]
    refine .dictionary (by simp) ?_
    rw [List.map_map, List.forall₂_map_left_iff, List.forall₂_map_right_iff, List.forall₂_same]
    exact fun e he => ih e (List.mem_of_mem_filter he)
  | reference id => simpa [renumber] using Copied.reference id

-- Somewhere in an object is a reference.
inductive Mentions (r : ObjectId) : Object α → Prop
  | item {items : List (Object α)} {o : Object α} : o ∈ items → Mentions r o →
      Mentions r (.array items)
  | entry {entries : Dictionary α} {e : Bytes × Object α} : e ∈ entries → Mentions r e.2 →
      Mentions r (.dictionary entries)
  | reference : Mentions r (.reference r)

-- All that a copy refers to is a new name for something that was followed.
theorem mem_of_mentions_renumber {f : ObjectId → ObjectId} {o : Object α} {r : ObjectId}
    (h : (o.renumber f).Mentions r) : r ∈ o.references.map f := by
  induction o using Object.induction with
  | atom o ho =>
    rw [renumber_atom ho] at h
    cases h <;> cases ho
  | array items ih =>
    rw [renumber, renumberItems_eq] at h
    cases h with
    | item hm h =>
      obtain ⟨o, ho, rfl⟩ := List.mem_map.1 hm
      rw [references, itemReferences_eq, List.map_flatMap]
      exact List.mem_flatMap.2 ⟨o, ho, ih o ho h⟩
  | dictionary entries ih =>
    rw [renumber, renumberEntries_eq] at h
    cases h with
    | entry hm h =>
      obtain ⟨e, he, rfl⟩ := List.mem_map.1 hm
      rw [references, entryReferences_eq, List.map_flatMap]
      exact List.mem_flatMap.2 ⟨e, he, ih e (List.mem_of_mem_filter he) h⟩
  | reference id =>
    rw [renumber] at h
    cases h
    simp [references]

end Object

theorem Dictionary.mem_put {d : Dictionary α} {key : Bytes} {o : Object α}
    {e : Bytes × Object α} (h : e ∈ d.put key o) : e ∈ d ∨ e.2 = o := by
  induction d with
  | nil => simp_all [put]
  | cons e' d ih =>
    rw [put] at h
    split at h
    case isTrue => rcases List.mem_cons.1 h with rfl | h <;> simp_all
    case isFalse =>
      rcases List.mem_cons.1 h with rfl | h
      · exact .inl List.mem_cons_self
      · exact (ih h).imp_left (List.mem_cons_of_mem _)

namespace Indirect

def Mentions (r : ObjectId) : Indirect α → Prop
  | object o => o.Mentions r
  | stream s => (Object.dictionary s.entries).Mentions r

variable [Coordinate α]

-- A copied stream holds the same data and states its length.
inductive Copied (f : ObjectId → ObjectId) : Indirect α → Indirect α → Prop
  | object {o o' : Object α} : o.Copied f o' → Copied f (.object o) (.object o')
  | stream {s s' : Stream α} {entries : Dictionary α} :
      (Object.dictionary s.entries).Copied f (.dictionary entries) →
      s'.entries = entries.set "Length" (.count s.content.length) → s'.body = s.body →
      s'.compressible = s.compressible → Copied f (.stream s) (.stream s')

theorem copied_renumber (f : ObjectId → ObjectId) (o : Indirect α) : o.Copied f (o.renumber f) := by
  cases o with
  | object o => exact .object (o.copied_renumber f)
  | stream s =>
    have h := (Object.dictionary s.entries).copied_renumber f
    rw [Object.renumber] at h
    exact .stream h rfl rfl rfl

theorem mem_of_mentions_renumber {f : ObjectId → ObjectId} {o : Indirect α} {r : ObjectId}
    (h : (o.renumber f).Mentions r) : r ∈ o.references.map f := by
  cases o with
  | object o => exact Object.mem_of_mentions_renumber h
  | stream s =>
    have hd : (Object.dictionary s.entries).references = Object.entryReferences s.entries := by
      rw [Object.references]
    rw [references, ← hd]
    refine Object.mem_of_mentions_renumber ?_
    rw [Object.renumber]
    cases h with
    | entry hm h =>
      rcases Dictionary.mem_put hm with hm | hl
      · exact .entry hm h
      · rw [hl] at h
        cases h

end Indirect

/-! ### What is copied -/

-- One object leads to another over references, ways up apart.
def Store.Reaches (source : Store α) : ObjectId → ObjectId → Prop :=
  Relation.ReflTransGen fun a b => b ∈ (sourceObject source a).references

variable {source : Store α} {seen pending : List ObjectId} {id : ObjectId}

theorem exists_reaches_of_mem_reach (h : id ∈ reach source seen pending) :
    id ∈ seen ∨ ∃ p ∈ pending, source.Reaches p id := by
  induction seen, pending using reach_induction source with
  | nil seen => exact .inl (by simpa using h)
  | seen seen p rest hp ih =>
    rw [reach_seen hp] at h
    exact (ih h).imp_right fun ⟨q, hq, hr⟩ => ⟨q, List.mem_cons_of_mem _ hq, hr⟩
  | unseen seen p rest hp ih =>
    rw [reach_unseen hp] at h
    rcases ih h with hs | ⟨q, hq, hr⟩
    · rcases List.mem_cons.1 hs with rfl | hs
      · exact .inr ⟨id, List.mem_cons_self, .refl⟩
      · exact .inl hs
    · rcases List.mem_append.1 hq with hq | hq
      · exact .inr ⟨p, List.mem_cons_self, .head hq hr⟩
      · exact .inr ⟨q, List.mem_cons_of_mem _ hq, hr⟩

-- Together with what was seen, all that pending objects lead to is reached and nothing else.
theorem mem_reach_iff
    (h : ∀ id ∈ seen, ∀ r ∈ (sourceObject source id).references, r ∈ seen) :
    id ∈ reach source seen pending ↔ id ∈ seen ∨ ∃ p ∈ pending, source.Reaches p id := by
  refine ⟨exists_reaches_of_mem_reach, ?_⟩
  rintro (hs | ⟨p, hp, hr⟩)
  · exact suffix_reach.mem hs
  · have closed : ∀ id ∈ reach source seen pending, ∀ r ∈ (sourceObject source id).references,
        r ∈ reach source seen pending :=
      references_subset_reach fun id hid r hr => .inl (h id hid r hr)
    induction hr with
    | refl => exact pending_subset_reach hp
    | tail _ hr ih => exact closed _ ih _ hr

theorem Numbering.map_apply_ids {n : Numbering} (h : n.ids.Nodup) :
    n.ids.map n.apply = n.map (·.2) := by
  rw [Numbering.ids, List.map_map]
  refine List.map_congr_left fun p hp => ?_
  rw [Function.comp_apply, Numbering.apply, lookup_eq_some_of_nodup h hp, Option.getD_some]

/-! ### Calls on one copier -/

namespace Copier

-- What a copier is asked for: the object behind a reference, or an object with all it refers to.
inductive Call (α : Type) where
  | reference (id : ObjectId)
  | object (o : Indirect α)

inductive Answer (α : Type) where
  | reference (id : ObjectId)
  | object (o : Indirect α)

namespace Call

def references : Call α → List ObjectId
  | reference id => [id]
  | object o => o.references

variable [Coordinate α]

-- The right answer when objects are renamed in one way.
inductive Answered (f : ObjectId → ObjectId) : Call α → Answer α → Prop
  | reference (id : ObjectId) : Answered f (.reference id) (.reference (f id))
  | object {o o' : Indirect α} : o.Copied f o' → Answered f (.object o) (.object o')

-- The answer once all that is asked for was copied.
def answer (f : ObjectId → ObjectId) : Call α → Answer α
  | reference id => .reference (f id)
  | object o => .object (o.renumber f)

theorem answered_answer (f : ObjectId → ObjectId) (call : Call α) :
    Answered f call (call.answer f) := by
  cases call with
  | reference id => exact .reference id
  | object o => exact .object (o.copied_renumber f)

theorem answer_congr {f g : ObjectId → ObjectId} {call : Call α}
    (h : ∀ r ∈ call.references, f r = g r) : call.answer f = call.answer g := by
  cases call with
  | reference id => rw [answer, answer, h id (List.mem_singleton_self id)]
  | object o => rw [answer, answer, Indirect.renumber_congr o h]

end Call

def Answer.Mentions (r : ObjectId) : Answer α → Prop
  | reference id => id = r
  | object o => o.Mentions r

variable [Coordinate α] {c : Copier α}

def call (source : Store α) (c : Copier α) : Call α → Answer α × Copier α
  | .reference id =>
    let (new, c) := c.copyReference source id
    (.reference new, c)
  | .object o =>
    let (new, c) := c.copyObject source o
    (.object new, c)

-- One call after the other, and their answers.
def calls (source : Store α) (c : Copier α) : List (Call α) → List (Answer α) × Copier α
  | [] => ([], c)
  | x :: xs =>
    let (answer, c) := c.call source x
    let (answers, c) := calls source c xs
    (answer :: answers, c)

theorem call_eq (x : Call α) :
    c.call source x =
      (x.answer (c.copyAll source x.references).numbering.apply,
        c.copyAll source x.references) := by
  cases x <;> rfl

theorem calls_concat (xs : List (Call α)) (x : Call α) :
    c.calls source (xs ++ [x]) =
      ((c.calls source xs).1 ++ [((c.calls source xs).2.call source x).1],
        ((c.calls source xs).2.call source x).2) := by
  induction xs generalizing c with
  | nil => rfl
  | cons y ys ih => simp [calls, ih]

-- The copier behind some calls.
def after (source target : Store α) (xs : List (Call α)) : Copier α :=
  (calls source ⟨[], target⟩ xs).2

-- What holds of a copier behind some calls.
structure Complete (source target : Store α) (xs : List (Call α)) (answers : List (Answer α))
    (c : Copier α) : Prop where
  -- just what the calls lead to is copied
  reached   : ∀ id, id ∈ c.numbering.ids ↔ ∃ x ∈ xs, ∃ r ∈ x.references, source.Reaches r id
  once      : c.numbering.ids.Nodup
  injective : ∀ a ∈ c.numbering.ids, ∀ b ∈ c.numbering.ids,
                c.numbering.apply a = c.numbering.apply b → a = b
  fresh     : ∀ id ∈ c.numbering.ids, c.numbering.apply id ∉ target.ids
  -- nothing is in the target but one copy of each object, and what was there
  stored    : c.target.ids.Perm (c.numbering.ids.map c.numbering.apply ++ target.ids)
  kept      : target.Keeps c.target
  copied    : ∀ id ∈ c.numbering.ids, ∃ o, c.target.at? (c.numbering.apply id) = some o ∧
                (∀ x, source.get? id = some x → x.Copied c.numbering.apply o) ∧
                (source.get? id = none → o = .object .null)
  answered  : List.Forall₂ (Call.Answered c.numbering.apply) xs answers
  -- no reference in a copy leads nowhere
  resolved  : ∀ id ∈ c.numbering.ids, ∀ o, c.target.at? (c.numbering.apply id) = some o →
                ∀ r, o.Mentions r → (c.target.get? r).isSome
  answers   : ∀ a ∈ answers, ∀ r, a.Mentions r → (c.target.get? r).isSome

variable {target : Store α} {xs : List (Call α)} {x : Call α}

theorem after_concat :
    after source target (xs ++ [x]) = (after source target xs).copyAll source x.references := by
  rw [after, calls_concat, call_eq]
  rfl

theorem faithful_after (h : target.Tidy) (xs : List (Call α)) :
    Faithful source (after source target xs) := by
  induction xs using List.reverseRecOn with
  | nil => exact .fresh h
  | append_singleton xs x ih =>
    rw [after_concat]
    exact ih.copyAll _

theorem grows_after (h : target.Tidy) (xs : List (Call α)) :
    target.Grows (after source target xs).target := by
  induction xs using List.reverseRecOn with
  | nil => exact .refl h
  | append_singleton xs x ih =>
    rw [after_concat]
    exact ih.trans (grows_copyAll ih.tidy _)

theorem numbering_prefix_copyAll (ids : List ObjectId) :
    c.numbering <+: (c.copyAll source ids).numbering :=
  List.prefix_append ..

theorem numbering_prefix_after (xs ys : List (Call α)) :
    (after source target xs).numbering <+: (after source target (xs ++ ys)).numbering := by
  induction ys using List.reverseRecOn with
  | nil => simp
  | append_singleton ys y ih =>
    rw [← List.append_assoc, after_concat]
    exact ih.trans (numbering_prefix_copyAll _)

theorem mem_ids_after_iff (h : target.Tidy) {id : ObjectId} :
    id ∈ (after source target xs).numbering.ids ↔
      ∃ x ∈ xs, ∃ r ∈ x.references, source.Reaches r id := by
  induction xs using List.reverseRecOn with
  | nil => simp [after, calls, Numbering.ids]
  | append_singleton xs x ih =>
    have closed : ∀ i ∈ (after source target xs).numbering.ids.reverse,
        ∀ r ∈ (sourceObject source i).references,
          r ∈ (after source target xs).numbering.ids.reverse := by
      intro i hi r hr
      rw [List.mem_reverse] at hi ⊢
      exact (faithful_after h xs).closed i hi r hr
    rw [after_concat, mem_ids_copyAll, mem_reach_iff closed, List.mem_reverse, ih]
    simp [or_and_right, exists_or]

theorem references_subset_after (h : target.Tidy) (hx : x ∈ xs) :
    x.references ⊆ (after source target xs).numbering.ids :=
  fun r hr => (mem_ids_after_iff h).2 ⟨x, hx, r, hr, .refl⟩

-- An answer is right for good: later calls give out numbers for other objects only.
theorem answers_calls (h : target.Tidy) (xs : List (Call α)) :
    (calls source ⟨[], target⟩ xs).1 =
      xs.map (Call.answer (after source target xs).numbering.apply) := by
  induction xs using List.reverseRecOn with
  | nil => rfl
  | append_singleton xs x ih =>
    obtain ⟨n, hn⟩ : (after source target xs).numbering <+:
        (after source target (xs ++ [x])).numbering := numbering_prefix_after xs [x]
    have hlast : ((calls source ⟨[], target⟩ xs).2.call source x).1 =
        x.answer (after source target (xs ++ [x])).numbering.apply := by
      rw [call_eq, after_concat]
      rfl
    have hfirst : xs.map (Call.answer (after source target xs).numbering.apply) =
        xs.map (Call.answer (after source target (xs ++ [x])).numbering.apply) := by
      refine List.map_congr_left fun y hy => Call.answer_congr fun r hr => ?_
      rw [← hn, Numbering.apply_append (references_subset_after h hy hr)]
    rw [calls_concat, ih, hfirst, hlast, List.map_append, List.map_singleton]

theorem ids_target_after (xs : List (Call α)) :
    (after source target xs).target.ids.Perm
      ((after source target xs).numbering.map (·.2) ++ target.ids) := by
  induction xs using List.reverseRecOn with
  | nil => rfl
  | append_singleton xs x ih =>
    rw [after_concat, ids_target_copyAll, numbering_copyAll, List.map_append]
    refine ((List.reverse_perm _).append ih).trans ?_
    rw [← List.append_assoc]
    exact List.perm_append_comm.append_right _

theorem maxId_lt_after (xs : List (Call α)) :
    target.maxId ≤ (after source target xs).target.maxId ∧
      ∀ p ∈ (after source target xs).numbering, target.maxId < p.2.number := by
  induction xs using List.reverseRecOn with
  | nil => exact ⟨Nat.le_refl _, fun _ => nofun⟩
  | append_singleton xs x ih =>
    rw [after_concat, maxId_copyAll, numbering_copyAll]
    refine ⟨by omega, fun p hp => ?_⟩
    rcases List.mem_append.1 hp with hp | hp
    · exact ih.2 p hp
    · have := (number_numbered hp).1
      omega

-- A copy is no reference itself, so that what refers to it has reached its end.
theorem Faithful.get?_apply (h : Faithful source c) {id : ObjectId} (hid : id ∈ c.numbering.ids) :
    c.target.get? (c.numbering.apply id) =
      some ((sourceObject source id).renumber c.numbering.apply) :=
  Store.get?_of_at? (h.at?_apply hid) (Indirect.solid_renumber.2 (solid_sourceObject source id))

theorem Faithful.isSome_get?_of_mentions (h : Faithful source c) {o : Indirect α}
    (ho : o.references ⊆ c.numbering.ids) {r : ObjectId}
    (hr : (o.renumber c.numbering.apply).Mentions r) : (c.target.get? r).isSome := by
  obtain ⟨k, hk, rfl⟩ := List.mem_map.1 (Indirect.mem_of_mentions_renumber hr)
  rw [h.get?_apply (ho hk)]
  rfl

-- After any calls all that they lead to is copied, each object once, and every answer holds for
-- good.
theorem complete_calls (h : target.Tidy) (xs : List (Call α)) :
    Complete source target xs (calls source ⟨[], target⟩ xs).1 (after source target xs) ∧
      ∀ ys, (after source target xs).numbering <+:
        (after source target (xs ++ ys)).numbering := by
  have hf : Faithful source (after source target xs) := faithful_after h xs
  refine ⟨?_, numbering_prefix_after xs⟩
  constructor
  case reached => exact fun id => mem_ids_after_iff h
  case once => exact hf.nodup
  case injective => exact fun a ha b hb => hf.apply_injective ha hb
  case fresh =>
    intro id hid hm
    have hlt : target.maxId < ((after source target xs).numbering.apply id).number :=
      (maxId_lt_after xs).2 _ (Numbering.apply_mem hid)
    have hle := h _ hm
    omega
  case stored =>
    rw [Numbering.map_apply_ids hf.nodup]
    exact ids_target_after xs
  case kept => exact (grows_after h xs).keeps
  case copied =>
    intro id hid
    refine ⟨_, hf.at?_apply hid, fun x hx => ?_, fun hn => ?_⟩
    · rw [sourceObject_of_some hx]
      exact x.copied_renumber _
    · rw [sourceObject, hn]
      simp [Indirect.renumber, Object.renumber]
  case answered =>
    rw [answers_calls h, List.forall₂_map_right_iff, List.forall₂_same]
    exact fun x _ => x.answered_answer _
  case resolved =>
    intro id hid o ho r hr
    rw [hf.at?_apply hid] at ho
    cases ho
    exact hf.isSome_get?_of_mentions (hf.closed id hid) hr
  case answers =>
    intro a ha r hr
    rw [answers_calls h] at ha
    obtain ⟨x, hx, rfl⟩ := List.mem_map.1 ha
    have hsub : x.references ⊆ (after source target xs).numbering.ids :=
      references_subset_after h hx
    cases x with
    | reference id =>
      cases hr
      rw [hf.get?_apply (hsub (List.mem_singleton_self id))]
      rfl
    | object o => exact hf.isSome_get?_of_mentions hsub hr

-- Two objects that refer to each other, one to something above it and one to something missing.
def ring : Store Float32 where
  objects := [
    (⟨1, 0⟩, .object (.dictionary (Dictionary.ofList [
      ("Parent", .reference ⟨9, 0⟩), ("Next", .reference ⟨2, 0⟩)]))),
    (⟨2, 0⟩, .object (.dictionary (Dictionary.ofList [
      ("Next", .reference ⟨1, 0⟩), ("Missing", .reference ⟨7, 0⟩)])))]
  maxId := 2

def single : Store Float32 where
  objects := [(⟨1, 0⟩, .object .null)]
  maxId := 1

theorem complete_calls_ring : single.Tidy ∧
    (after ring single [.reference ⟨2, 0⟩, .reference ⟨1, 0⟩]).numbering.ids =
      [⟨2, 0⟩, ⟨1, 0⟩, ⟨7, 0⟩] ∧
    Complete ring single [.reference ⟨2, 0⟩, .reference ⟨1, 0⟩]
      (calls ring ⟨[], single⟩ [.reference ⟨2, 0⟩, .reference ⟨1, 0⟩]).1
      (after ring single [.reference ⟨2, 0⟩, .reference ⟨1, 0⟩]) := by
  have htidy : single.Tidy := by simp [Store.Tidy, Store.ids, single]
  have first : (sourceObject ring ⟨1, 0⟩).references = [⟨2, 0⟩] := by decide +kernel
  have second : (sourceObject ring ⟨2, 0⟩).references = [⟨1, 0⟩, ⟨7, 0⟩] := by decide +kernel
  have missing : (sourceObject ring ⟨7, 0⟩).references = [] := by decide +kernel
  have hreach : reach ring [] [⟨2, 0⟩] = [⟨7, 0⟩, ⟨1, 0⟩, ⟨2, 0⟩] := by
    simp [reach_unseen, reach_seen, first, second, missing]
  refine ⟨htidy, ?_, (complete_calls htidy _).1⟩
  have hids : (after ring single [.reference ⟨2, 0⟩]).numbering.ids =
      [⟨2, 0⟩, ⟨1, 0⟩, ⟨7, 0⟩] := by
    rw [← List.nil_append [Call.reference _], after_concat, ids_copyAll]
    exact congrArg List.reverse hreach
  rw [← List.singleton_append, after_concat, ids_copyAll, hids]
  simp [Call.references, reach_seen]

end Copier
end Pdf
end AccessReport
