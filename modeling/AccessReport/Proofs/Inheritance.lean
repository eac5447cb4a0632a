import AccessReport.Pdf.PageBox
import AccessReport.Proofs.Unfolding
import Mathlib.Data.ENat.Basic

namespace AccessReport

open Coordinate

namespace Pdf

variable {α : Type} {s : Store α} {id page : ObjectId} {limit : ℕ∞} {n m : Nat}
  {o x x' : Indirect α} {d : Dictionary α} {key : String} {value : Object α}

theorem Indirect.reference_or_solid (o : Indirect α) :
    (∃ id, o = .object (.reference id)) ∨ o.Solid :=
  or_iff_not_imp_left.2 fun h id ho => h ⟨id, ho⟩

namespace Store

/-! ### References -/

-- What is at the end of a chain of references, and how many references there are.
inductive Leads (s : Store α) : Indirect α → Nat → Indirect α → Prop where
  | here {o : Indirect α} (solid : o.Solid) : s.Leads o 0 o
  | next {id : ObjectId} {o x : Indirect α} {n : Nat} (found : s.at? id = some o)
      (rest : s.Leads o n x) : s.Leads (.object (.reference id)) (n + 1) x

def LeadsWithin (s : Store α) (limit : ℕ∞) (o x : Indirect α) : Prop :=
  ∃ n : Nat, n ≤ limit ∧ s.Leads o n x

-- How many references there may be between an object and what it stands for.
def chainLimit : Nat :=
  referenceLimit + 1

theorem Leads.unique (h : s.Leads o n x) (h' : s.Leads o m x') : n = m ∧ x = x' := by
  induction h generalizing m with
  | here solid =>
    cases h' with
    | here => exact ⟨rfl, rfl⟩
    | next => exact absurd rfl (solid _)
  | next found _ ih =>
    cases h' with
    | here solid => exact absurd rfl (solid _)
    | next found' rest' =>
      cases found.symm.trans found'
      obtain ⟨rfl, rfl⟩ := ih rest'
      exact ⟨rfl, rfl⟩

theorem Leads.of_reference (h : s.Leads (.object (.reference id)) n x) :
    ∃ m o, n = m + 1 ∧ s.at? id = some o ∧ s.Leads o m x := by
  cases h with
  | here solid => exact absurd rfl (solid id)
  | next found rest => exact ⟨_, _, rfl, found, rest⟩

theorem Leads.solid (h : s.Leads o n x) : x.Solid := by
  induction h with
  | here solid => exact solid
  | next _ _ ih => exact ih

theorem LeadsWithin.unique (h : s.LeadsWithin limit o x) (h' : s.Leads o n x') : x = x' := by
  obtain ⟨_, _, h⟩ := h
  exact (h.unique h').2

theorem LeadsWithin.solid (h : s.LeadsWithin limit o x) : x.Solid := by
  obtain ⟨_, _, h⟩ := h
  exact h.solid

theorem LeadsWithin.of_solid (h : o.Solid) : s.LeadsWithin limit o o :=
  ⟨0, by simp, .here h⟩

theorem follow_eq_some_iff_of_solid (h : o.Solid) :
    s.follow n o = some x ↔ ∃ m ≤ n, s.Leads o m x := by
  have hfollow : s.follow n o = some o := by
    cases o with
    | object o => cases o <;> first | exact absurd rfl (h _) | simp [follow]
    | stream _ => simp [follow]
  rw [hfollow]
  constructor
  case mp =>
    rintro ⟨⟩
    exact ⟨0, Nat.zero_le n, .here h⟩
  case mpr =>
    rintro ⟨m, -, hm⟩
    rw [(hm.unique (.here h)).2]

theorem follow_eq_some_iff : s.follow n o = some x ↔ ∃ m ≤ n, s.Leads o m x := by
  induction n generalizing o with
  | zero =>
    obtain ⟨id, rfl⟩ | h := o.reference_or_solid
    · refine iff_of_false (by simp [follow]) fun ⟨m, hm, h⟩ => ?_
      obtain ⟨_, _, rfl, -, -⟩ := h.of_reference
      omega
    · exact follow_eq_some_iff_of_solid h
  | succ n ih =>
    obtain ⟨id, rfl⟩ | h := o.reference_or_solid
    · change (s.at? id).bind (s.follow n) = some x ↔ _
      constructor
      case mp =>
        intro h
        obtain ⟨o, ho, h⟩ := Option.bind_eq_some_iff.1 h
        obtain ⟨m, hm, h⟩ := ih.1 h
        exact ⟨m + 1, by omega, .next ho h⟩
      case mpr =>
        rintro ⟨_, hm, h⟩
        obtain ⟨m, o, rfl, ho, h⟩ := h.of_reference
        exact Option.bind_eq_some_iff.2 ⟨o, ho, ih.2 ⟨m, by omega, h⟩⟩
    · exact follow_eq_some_iff_of_solid h

theorem get?_eq_some_iff :
    s.get? id = some x ↔ s.LeadsWithin chainLimit (.object (.reference id)) x := by
  -- the reference to the number itself is not counted by `follow`
  have hget : s.get? id = s.follow chainLimit (.object (.reference id)) := rfl
  simp only [hget, follow_eq_some_iff, LeadsWithin, Nat.cast_le]

theorem resolve_eq_iff {o : Object α} (hx : x.Solid) :
    s.resolve o = x ↔ s.LeadsWithin chainLimit (.object o) x := by
  obtain ⟨id, ho⟩ | ho := (Indirect.object o).reference_or_solid
  · cases ho
    rw [← get?_eq_some_iff]
    cases h : s.get? id with
    | none => simp [resolve, h, (hx id).symm]
    | some y => simp [resolve, h]
  · have hresolve : s.resolve o = .object o := by
      cases o <;> first | exact absurd rfl (ho _) | rfl
    rw [hresolve]
    constructor
    case mp =>
      rintro rfl
      exact .of_solid ho
    case mpr => exact fun h => (h.unique (.here ho)).symm

theorem dictionary?_eq_some_iff : s.dictionary? id = some d ↔
    s.LeadsWithin chainLimit (.object (.reference id)) (.object (.dictionary d)) := by
  rw [← get?_eq_some_iff, dictionary?, Option.bind_eq_some_iff]
  constructor
  case mp =>
    rintro ⟨x, hx, hd⟩
    obtain ⟨o, ho, hd⟩ := Option.bind_eq_some_iff.1 hd
    cases x <;> cases ho
    cases o <;> cases hd
    exact hx
  case mpr => exact fun h => ⟨_, h, rfl⟩

/-! ### The nodes above a page -/

def IsNode (s : Store α) (limit : ℕ∞) (id : ObjectId) (d : Dictionary α) : Prop :=
  s.LeadsWithin limit (.object (.reference id)) (.object (.dictionary d))

-- A node that is so many steps above another one; each names its parent.
inductive Above (s : Store α) (limit : ℕ∞) : ObjectId → Nat → Dictionary α → Prop where
  | self {id : ObjectId} {d : Dictionary α} (node : s.IsNode limit id d) : s.Above limit id 0 d
  | parent {id up : ObjectId} {d d' : Dictionary α} {n : Nat} (node : s.IsNode limit id d)
      (link : d.get? "Parent" = some (.reference up)) (above : s.Above limit up n d') :
      s.Above limit id (n + 1) d'

-- The value of a key in the nearest of so many nodes, from a page upwards, that has it.
def Nearest (s : Store α) (limit : ℕ∞) (key : String) (nodes : Nat) (page : ObjectId)
    (value : Object α) : Prop :=
  ∃ n < nodes, ∃ d, s.Above limit page n d ∧ d.get? key = some value ∧
    ∀ m < n, ∀ d', s.Above limit page m d' → d'.get? key = none

theorem IsNode.unique {d' : Dictionary α} (h : s.IsNode limit id d) (h' : s.IsNode limit id d') :
    d = d' := by
  obtain ⟨_, _, h'⟩ := h'
  cases LeadsWithin.unique h h'
  rfl

theorem Above.exists_isNode (h : s.Above limit id n d) : ∃ d', s.IsNode limit id d' := by
  cases h with
  | self node | parent node => exact ⟨_, node⟩

theorem IsNode.above_zero_iff {d' : Dictionary α} (h : s.IsNode limit id d) :
    s.Above limit id 0 d' ↔ d' = d := by
  constructor
  case mp =>
    rintro ⟨node⟩
    exact node.unique h
  case mpr =>
    rintro rfl
    exact .self h

theorem IsNode.above_succ_iff {d' : Dictionary α} (h : s.IsNode limit id d) :
    s.Above limit id (n + 1) d' ↔
      ∃ up, d.get? "Parent" = some (.reference up) ∧ s.Above limit up n d' := by
  constructor
  case mp =>
    intro habove
    cases habove with
    | parent node link above =>
      cases h.unique node
      exact ⟨_, link, above⟩
  case mpr =>
    rintro ⟨up, link, above⟩
    exact .parent h link above

theorem Nearest.exists_isNode (h : s.Nearest limit key n page value) :
    ∃ d, s.IsNode limit page d := by
  obtain ⟨_, _, _, habove, _⟩ := h
  exact habove.exists_isNode

theorem not_nearest_zero : ¬ s.Nearest limit key 0 page value :=
  fun ⟨_, h, _⟩ => Nat.not_lt_zero _ h

theorem IsNode.nearest_iff_of_some {v : Object α} (h : s.IsNode limit page d)
    (hkey : d.get? key = some v) : s.Nearest limit key (n + 1) page value ↔ v = value := by
  constructor
  case mp =>
    rintro ⟨k, -, d', habove, hvalue, hbelow⟩
    cases k with
    | zero =>
      cases h.above_zero_iff.1 habove
      exact Option.some.inj (hkey.symm.trans hvalue)
    | succ k =>
      cases hkey.symm.trans (hbelow 0 (Nat.succ_pos k) d (.self h))
  case mpr =>
    rintro rfl
    exact ⟨0, Nat.succ_pos n, d, .self h, hkey, fun _ hm => absurd hm (Nat.not_lt_zero _)⟩

theorem IsNode.nearest_iff_of_none (h : s.IsNode limit page d) (hkey : d.get? key = none) :
    s.Nearest limit key (n + 1) page value ↔
      ∃ up, d.get? "Parent" = some (.reference up) ∧ s.Nearest limit key n up value := by
  constructor
  case mp =>
    rintro ⟨k, hk, d', habove, hvalue, hbelow⟩
    cases k with
    | zero =>
      cases h.above_zero_iff.1 habove
      cases hkey.symm.trans hvalue
    | succ k =>
      obtain ⟨up, hlink, habove⟩ := h.above_succ_iff.1 habove
      refine ⟨up, hlink, k, Nat.lt_of_succ_lt_succ hk, d', habove, hvalue, fun m hm d'' hm' => ?_⟩
      exact hbelow (m + 1) (Nat.succ_lt_succ hm) d'' (.parent h hlink hm')
  case mpr =>
    rintro ⟨up, hlink, k, hk, d', habove, hvalue, hbelow⟩
    refine ⟨k + 1, Nat.succ_lt_succ hk, d', .parent h hlink habove, hvalue, fun m hm d'' hm' => ?_⟩
    cases m with
    | zero =>
      cases h.above_zero_iff.1 hm'
      exact hkey
    | succ m =>
      obtain ⟨up', hlink', hm'⟩ := h.above_succ_iff.1 hm'
      cases hlink.symm.trans hlink'
      exact hbelow m (Nat.lt_of_succ_lt_succ hm) d'' hm'

theorem bind_reference?_eq_some_iff {v : Option (Object α)} :
    v.bind Object.reference? = some id ↔ v = some (.reference id) := by
  cases v with
  | none => exact iff_of_false nofun nofun
  | some o => cases o <;> simp [Object.reference?]

theorem inherited?_eq_some_iff (n : Nat) :
    s.inherited? key n page = some value ↔ s.Nearest chainLimit key n page value := by
  induction n generalizing page with
  | zero => exact iff_of_false nofun not_nearest_zero
  | succ n ih =>
    unfold inherited?
    split
    case h_1 hd =>
      refine iff_of_false nofun fun h => ?_
      obtain ⟨d, hnode⟩ := h.exists_isNode
      cases hd.symm.trans (dictionary?_eq_some_iff.2 hnode)
    case h_2 d hd =>
      have hnode : s.IsNode chainLimit page d := dictionary?_eq_some_iff.1 hd
      split
      case h_1 v hkey => rw [hnode.nearest_iff_of_some hkey, Option.some.injEq]
      case h_2 hkey =>
        rw [hnode.nearest_iff_of_none hkey]
        split
        case h_1 up hlink =>
          rw [bind_reference?_eq_some_iff] at hlink
          rw [ih]
          constructor
          case mp => exact fun h => ⟨up, hlink, h⟩
          case mpr =>
            rintro ⟨_, hlink', h⟩
            cases hlink.symm.trans hlink'
            exact h
        case h_2 hlink =>
          refine iff_of_false nofun ?_
          rintro ⟨up, hlink', -⟩
          cases hlink.symm.trans (bind_reference?_eq_some_iff.2 hlink')

/-! ### The numbers of a box -/

variable [Coordinate α]

-- Integers count as the numbers nearest to them.
inductive IsNumber : Object α → α → Prop where
  | integer (i : Int) : IsNumber (.integer i) (ofInt i)
  | real (x : α) : IsNumber (.real x) x

def StandsFor (s : Store α) (limit : ℕ∞) (o : Object α) (x : α) : Prop :=
  ∃ o', s.LeadsWithin limit (.object o) (.object o') ∧ IsNumber o' x

-- The numbers among the items of an array; all other items are left out.
inductive Numbers (s : Store α) (limit : ℕ∞) : List (Object α) → List α → Prop where
  | nil : s.Numbers limit [] []
  | number {o : Object α} {x : α} {items : List (Object α)} {xs : List α}
      (head : s.StandsFor limit o x) (tail : s.Numbers limit items xs) :
      s.Numbers limit (o :: items) (x :: xs)
  | other {o : Object α} {items : List (Object α)} {xs : List α}
      (head : ∀ x, ¬ s.StandsFor limit o x) (tail : s.Numbers limit items xs) :
      s.Numbers limit (o :: items) xs

theorem number?_eq_some_iff {o : Object α} {x : α} :
    s.number? o = some x ↔ s.StandsFor chainLimit o x := by
  constructor
  case mp =>
    intro h
    unfold number? at h
    split at h
    case h_1 i hi =>
      cases h
      exact ⟨_, (resolve_eq_iff (by rintro _ ⟨⟩)).1 hi, .integer i⟩
    case h_2 x hx =>
      cases h
      exact ⟨_, (resolve_eq_iff (by rintro _ ⟨⟩)).1 hx, .real x⟩
    case h_3 => cases h
  case mpr =>
    rintro ⟨o', hleads, hx⟩
    cases hx <;> rw [number?, (resolve_eq_iff hleads.solid).2 hleads]

theorem filterMap_number?_eq_iff {items : List (Object α)} {xs : List α} :
    items.filterMap s.number? = xs ↔ s.Numbers chainLimit items xs := by
  induction items generalizing xs with
  | nil =>
    constructor
    case mp =>
      rintro rfl
      exact .nil
    case mpr =>
      rintro ⟨⟩
      rfl
  | cons o items ih =>
    cases h : s.number? o with
    | none =>
      rw [List.filterMap_cons_none h, ih]
      constructor
      case mp =>
        refine .other fun x hx => ?_
        cases h.symm.trans (number?_eq_some_iff.2 hx)
      case mpr =>
        intro hxs
        cases hxs with
        | number head => cases h.symm.trans (number?_eq_some_iff.2 head)
        | other _ tail => exact tail
    | some x =>
      rw [List.filterMap_cons_some h]
      constructor
      case mp =>
        rintro rfl
        exact .number (number?_eq_some_iff.1 h) (ih.1 rfl)
      case mpr =>
        intro hxs
        cases hxs with
        | number head tail =>
          cases h.symm.trans (number?_eq_some_iff.2 head)
          rw [ih.2 tail]
        | other head => exact absurd (number?_eq_some_iff.1 h) (head x)

-- The opposite corners that the box of a page is stated by: the four numbers in the array that is
-- the box of the page or of the nearest node above it with one.
def StatesCorners (s : Store α) (limit : ℕ∞) (page : ObjectId) (p q : Position α) : Prop :=
  ∃ value items, s.Nearest limit "MediaBox" ancestorLimit page value ∧
    s.LeadsWithin limit (.object value) (.object (.array items)) ∧
    s.Numbers limit items [p.x, p.y, q.x, q.y]

variable {p q p' q' : Position α}

theorem statesCorners_iff : s.StatesCorners chainLimit page p q ↔
    ∃ value items, s.inherited? "MediaBox" ancestorLimit page = some value ∧
      s.resolve value = .object (.array items) ∧
      items.filterMap s.number? = [p.x, p.y, q.x, q.y] := by
  have harray (items : List (Object α)) : (Indirect.object (.array items)).Solid := by
    rintro _ ⟨⟩
  simp only [StatesCorners, inherited?_eq_some_iff, resolve_eq_iff (harray _),
    filterMap_number?_eq_iff]

theorem StatesCorners.unique (h : s.StatesCorners chainLimit page p q)
    (h' : s.StatesCorners chainLimit page p' q') : p = p' ∧ q = q' := by
  obtain ⟨value, items, hvalue, hitems, hnumbers⟩ := statesCorners_iff.1 h
  obtain ⟨_, _, hvalue', hitems', hnumbers'⟩ := statesCorners_iff.1 h'
  cases hvalue.symm.trans hvalue'
  cases hitems.symm.trans hitems'
  obtain ⟨px, py⟩ := p
  obtain ⟨qx, qy⟩ := q
  cases hnumbers.symm.trans hnumbers'
  exact ⟨rfl, rfl⟩

end Store

end Pdf
end AccessReport
