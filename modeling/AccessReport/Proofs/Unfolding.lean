import AccessReport.Proofs.Copier
import Mathlib.Data.List.Forall2

namespace AccessReport
namespace Pdf

variable {α : Type} [Coordinate α]

namespace Indirect

-- No object but a value of its own; references lead to other objects.
def Solid (o : Indirect α) : Prop :=
  ∀ r, o ≠ .object (.reference r)

omit [Coordinate α] in
theorem solid_stream (s : Stream α) : Solid (.stream s) := by
  simp [Solid]

theorem solid_renumber {f : ObjectId → ObjectId} {o : Indirect α} :
    (o.renumber f).Solid ↔ o.Solid := by
  cases o with
  | object o => cases o <;> simp [Solid, renumber, Object.renumber]
  | stream s => simp [Solid, renumber]

theorem solid_shape {o : Indirect α} : o.shape.Solid ↔ o.Solid :=
  solid_renumber

theorem Solid.of_shape_eq {o o' : Indirect α} (h : o.Solid) (hs : o.shape = o'.shape) :
    o'.Solid := by
  rw [← solid_shape] at h ⊢
  rwa [← hs]

end Indirect

-- All that is seen of an object: what lies each number of steps below it, up to numbers.
abbrev Unfolding (α : Type) := Nat → List (Option (Indirect α))

namespace Store

variable {s s' t t' : Store α}

def childrenAt (s : Store α) (id : ObjectId) : List ObjectId :=
  ((s.at? id).map Indirect.children).getD []

-- The numbers that are reached in so many steps, each as often as there are ways to it.
def layer (s : Store α) (ids : List ObjectId) : Nat → List ObjectId
  | 0     => ids
  | n + 1 => layer s (ids.flatMap s.childrenAt) n

def unfolding (s : Store α) (id : ObjectId) : Unfolding α :=
  fun n => (s.layer [id] n).map fun id => (s.at? id).map Indirect.shape

-- Related objects are there and have one shape, and what they refer to is related again.
def Simulates (s s' : Store α) (R : ObjectId → ObjectId → Prop) : Prop :=
  ∀ a b, R a b → ∃ o o', s.at? a = some o ∧ s'.at? b = some o' ∧ o.Solid ∧ o.shape = o'.shape ∧
    List.Forall₂ R o.children o'.children

-- One object in two stores, with all that it refers to.
def Alike (s s' : Store α) (a b : ObjectId) : Prop :=
  ∃ R, Simulates s s' R ∧ R a b

-- The object is there with all that it refers to.
def Whole (s : Store α) (id : ObjectId) : Prop :=
  Alike s s id id

namespace Simulates

variable {R : ObjectId → ObjectId → Prop}

theorem layer (h : Simulates s s' R) {ids ids' : List ObjectId} (hr : List.Forall₂ R ids ids')
    (n : Nat) : List.Forall₂ R (s.layer ids n) (s'.layer ids' n) := by
  induction n generalizing ids ids' with
  | zero => exact hr
  | succ n ih =>
    refine ih (List.rel_flatMap hr fun a b hab => ?_)
    obtain ⟨o, o', ho, ho', -, -, hc⟩ := h a b hab
    simpa [childrenAt, ho, ho'] using hc

theorem unfolding_eq (h : Simulates s s' R) {a b : ObjectId} (hr : R a b) :
    s.unfolding a = s'.unfolding b := by
  funext n
  have hl := h.layer (.cons hr .nil) n
  refine List.forall₂_eq_eq_eq ▸ List.forall₂_map_left_iff.2 (List.forall₂_map_right_iff.2 ?_)
  refine hl.imp fun a b hab => ?_
  obtain ⟨o, o', ho, ho', -, hs, -⟩ := h a b hab
  simp [ho, ho', hs]

end Simulates

namespace Alike

variable {a b : ObjectId}

theorem simulates : Simulates s s' (Alike s s') := by
  rintro a b ⟨R, hR, hab⟩
  obtain ⟨o, o', ho, ho', hn, hs, hc⟩ := hR a b hab
  exact ⟨o, o', ho, ho', hn, hs, hc.imp fun _ _ h => ⟨R, hR, h⟩⟩

theorem unfolding_eq (h : Alike s s' a b) : s.unfolding a = s'.unfolding b :=
  simulates.unfolding_eq h

theorem keeps (h : Alike s s' a b) (hk : s.Keeps t) (hk' : s'.Keeps t') : Alike t t' a b := by
  obtain ⟨R, hR, hab⟩ := h
  refine ⟨R, fun x y hxy => ?_, hab⟩
  obtain ⟨o, o', ho, ho', h⟩ := hR x y hxy
  exact ⟨o, o', hk _ _ ho, hk' _ _ ho', h⟩

theorem symm (h : Alike s s' a b) : Alike s' s b a := by
  refine ⟨fun x y => Alike s s' y x, fun x y hxy => ?_, h⟩
  obtain ⟨o, o', ho, ho', hn, hs, hc⟩ := simulates _ _ hxy
  exact ⟨o', o, ho', ho, hn.of_shape_eq hs, hs.symm, hc.flip⟩

theorem left (h : Alike s s' a b) : s.Whole a := by
  refine ⟨fun x y => x = y ∧ ∃ z, Alike s s' x z, ?_, rfl, b, h⟩
  rintro x _ ⟨rfl, z, hxz⟩
  obtain ⟨o, o', ho, -, hn, -, hc⟩ := simulates _ _ hxz
  refine ⟨o, o, ho, ho, hn, rfl, ?_⟩
  generalize o.children = rs, o'.children = rs' at hc
  induction hc with
  | nil => exact .nil
  | cons h _ ih => exact .cons ⟨rfl, _, h⟩ ih

theorem right (h : Alike s s' a b) : s'.Whole b :=
  h.symm.left

-- New objects are alike when those that they refer to are.
theorem add (hs : s.Tidy) (hs' : s'.Tidy) {o o' : Indirect α} (hn : o.Solid)
    (h : o.shape = o'.shape) (hc : List.Forall₂ (Alike s s') o.children o'.children) :
    Alike (s.add o).2 (s'.add o').2 (s.add o).1 (s'.add o').1 := by
  refine ⟨fun a b => a = (s.add o).1 ∧ b = (s'.add o').1 ∨ Alike (s.add o).2 (s'.add o').2 a b,
    ?_, .inl ⟨rfl, rfl⟩⟩
  rintro a b (⟨rfl, rfl⟩ | hab)
  · refine ⟨o, o', at?_add s o, at?_add s' o', hn, h, hc.imp fun x y hxy => .inr ?_⟩
    exact hxy.keeps (hs.keeps_add o) (hs'.keeps_add o')
  · obtain ⟨x, y, hx, hy, hn, hs, hc⟩ := simulates a b hab
    exact ⟨x, y, hx, hy, hn, hs, hc.imp fun _ _ => .inr⟩

end Alike

namespace Whole

variable {id : ObjectId}

theorem keeps (h : s.Whole id) (hk : s.Keeps s') : s'.Whole id :=
  Alike.keeps h hk hk

theorem exists_at? (h : s.Whole id) :
    ∃ o, s.at? id = some o ∧ o.Solid ∧ ∀ r ∈ o.children, s.Whole r := by
  obtain ⟨o, o', ho, ho', hn, -, hc⟩ := Alike.simulates _ _ h
  cases ho.symm.trans ho'
  exact ⟨o, ho, hn, fun r hr => List.forall₂_same.1 hc r hr⟩

theorem unfolding_eq (h : s.Whole id) (hk : s.Keeps s') : s'.unfolding id = s.unfolding id :=
  (Alike.keeps h (.refl s) hk).unfolding_eq.symm

end Whole
end Store

-- Chains of references are followed to their ends before anything is copied.
omit [Coordinate α] in
theorem Store.solid_of_follow {source : Store α} {limit : Nat} {o x : Indirect α}
    (h : source.follow limit o = some x) : x.Solid := by
  intro r
  induction limit generalizing o with
  | zero =>
    rintro rfl
    cases o with
    | object o => cases o <;> simp [follow] at h
    | stream s => simp [follow] at h
  | succ limit ih =>
    cases o with
    | object o =>
      cases o with
      | reference id =>
        obtain ⟨y, -, hy⟩ := Option.bind_eq_some_iff.1 (by simpa [follow] using h)
        exact ih hy
      | _ => cases h; simp
    | stream s => cases h; simp

omit [Coordinate α] in
theorem solid_sourceObject (source : Store α) (id : ObjectId) : (sourceObject source id).Solid := by
  cases h : source.get? id with
  | none => simp [sourceObject, h, Indirect.Solid]
  | some o =>
    obtain ⟨x, -, hx⟩ := Option.bind_eq_some_iff.1 h
    rw [sourceObject_of_some h]
    exact Store.solid_of_follow hx

-- What was copied from one source into two targets is the same in both.
theorem Copier.Faithful.alike {source : Store α} {c c' : Copier α} (h : Faithful source c)
    (h' : Faithful source c') {id : ObjectId} (hid : id ∈ c.numbering.ids)
    (hid' : id ∈ c'.numbering.ids) :
    Store.Alike c.target c'.target (c.numbering.apply id) (c'.numbering.apply id) := by
  refine ⟨fun a b => ∃ id, id ∈ c.numbering.ids ∧ id ∈ c'.numbering.ids ∧
    a = c.numbering.apply id ∧ b = c'.numbering.apply id, ?_, id, hid, hid', rfl, rfl⟩
  rintro _ _ ⟨id, hid, hid', rfl, rfl⟩
  refine ⟨_, _, h.at?_apply hid, h'.at?_apply hid',
    Indirect.solid_renumber.2 (solid_sourceObject source id), ?_, ?_⟩
  · simp [Indirect.shape_renumber]
  · rw [Indirect.children_renumber, Indirect.children_renumber, List.forall₂_map_left_iff,
      List.forall₂_map_right_iff, List.forall₂_same]
    intro r hr
    have hr := Indirect.children_subset _ hr
    exact ⟨r, h.closed id hid r hr, h'.closed id hid' r hr, rfl, rfl⟩

end Pdf
end AccessReport
