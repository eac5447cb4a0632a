import AccessReport.Proofs.Comparing
import AccessReport.Proofs.Embedding

namespace AccessReport

open Coordinate

namespace Pdf

variable {α : Type} {page : ObjectId}

namespace PageBox

variable [Coordinate α] {b : PageBox α} {p q p' q' : Position α}

-- A rectangle between two opposite corners, with a size.
structure Spans (b : PageBox α) (p q : Position α) : Prop where
  horizontal : b.x₀ = p.x ∧ b.x₁ = q.x ∨ b.x₀ = q.x ∧ b.x₁ = p.x
  vertical   : b.y₀ = p.y ∧ b.y₁ = q.y ∨ b.y₀ = q.y ∧ b.y₁ = p.y
  finite     : isFinite (b.x₁ - b.x₀) = true ∧ isFinite (b.y₁ - b.y₀) = true
  positive   : zero < b.x₁ - b.x₀ ∧ zero < b.y₁ - b.y₀

-- Two pairs of opposite corners that belong to one rectangle.
structure SameRectangle (p q p' q' : Position α) : Prop where
  x : p'.x = p.x ∧ q'.x = q.x ∨ p'.x = q.x ∧ q'.x = p.x
  y : p'.y = p.y ∧ q'.y = q.y ∨ p'.y = q.y ∧ q'.y = p.y

theorem SameRectangle.spans_iff (h : SameRectangle p q p' q') : b.Spans p' q' ↔ b.Spans p q := by
  have hside {u v a c a' c' : α} (h : a' = a ∧ c' = c ∨ a' = c ∧ c' = a) :
      (u = a' ∧ v = c' ∨ u = c' ∧ v = a') ↔ (u = a ∧ v = c ∨ u = c ∧ v = a) := by
    obtain ⟨rfl, rfl⟩ | ⟨rfl, rfl⟩ := h
    · rfl
    · exact or_comm
  constructor
  case mp => exact fun ⟨hh, hv, hf, hp⟩ => ⟨(hside h.x).1 hh, (hside h.y).1 hv, hf, hp⟩
  case mpr => exact fun ⟨hh, hv, hf, hp⟩ => ⟨(hside h.x).2 hh, (hside h.y).2 hv, hf, hp⟩

theorem isValid_dimensions : b.dimensions.isValid = true ↔
    (isFinite (b.x₁ - b.x₀) = true ∧ isFinite (b.y₁ - b.y₀) = true) ∧
      zero < b.x₁ - b.x₀ ∧ zero < b.y₁ - b.y₀ := by
  simp only [Dimensions.isValid, Bool.and_eq_true, decide_eq_true_eq, and_assoc]
  exact Iff.rfl

theorem Spans.corners_lt {b : PageBox Float32} {p q : Position Float32} (h : b.Spans p q) :
    b.x₀ < b.x₁ ∧ b.y₀ < b.y₁ :=
  ⟨Single.lt_of_sub_pos h.positive.1, Single.lt_of_sub_pos h.positive.2⟩

theorem spans_iff {b : PageBox Float32} {p q : Position Float32} :
    b.Spans p q ↔ b = ofCorners p.x p.y q.x q.y ∧ b.dimensions.isValid = true := by
  rw [isValid_dimensions]
  constructor
  case mp =>
    intro h
    obtain ⟨hx, hy⟩ := h.corners_lt
    obtain ⟨hh, hv, hf, hp⟩ := h
    refine ⟨?_, hf, hp⟩
    obtain ⟨x₀, y₀, x₁, y₁⟩ := b
    simp only [ofCorners, mk.injEq]
    have hbounds {u v u' v' : Float32} (hlt : u < v) (h : u = u' ∧ v = v' ∨ u = v' ∧ v = u') :
        u = smaller u' v' ∧ v = larger u' v' := by
      obtain ⟨rfl, rfl⟩ | ⟨rfl, rfl⟩ := h
      · exact ⟨(Single.smaller_eq_left hlt).symm, (Single.larger_eq_right hlt).symm⟩
      · exact ⟨(Single.smaller_eq_right hlt).symm, (Single.larger_eq_left hlt).symm⟩
    have ⟨hx, hx'⟩ := hbounds hx hh
    have ⟨hy, hy'⟩ := hbounds hy hv
    exact ⟨hx, hy, hx', hy'⟩
  case mpr =>
    rintro ⟨rfl, hf, hp⟩
    exact ⟨Single.bounds_cases (Single.lt_of_sub_pos hp.1),
      Single.bounds_cases (Single.lt_of_sub_pos hp.2), hf, hp⟩

end PageBox

/-! ### The box of a page -/

def Store.HasMediaBox [Coordinate α] (s : Store α) (limit : ℕ∞) (page : ObjectId)
    (b : PageBox α) : Prop :=
  ∃ p q, s.StatesCorners limit page p q ∧ b.Spans p q

namespace PageBox

variable {s : Store Float32} {b : PageBox Float32} {p q : Position Float32}

theorem ofPage?_eq_some_iff : ofPage? s page = some b ↔ s.HasMediaBox Store.chainLimit page b := by
  simp only [Document.ofPage?_eq_some_iff, Document.HasBox, Store.HasMediaBox, spans_iff]

theorem ofPage?_eq_some_iff_spans (h : s.StatesCorners Store.chainLimit page p q) :
    ofPage? s page = some b ↔ b.Spans p q := by
  rw [ofPage?_eq_some_iff]
  constructor
  case mp =>
    rintro ⟨p', q', h', hspans⟩
    obtain ⟨rfl, rfl⟩ := h.unique h'
    exact hspans
  case mpr => exact fun hspans => ⟨p, q, h, hspans⟩

-- The box of a page is what the nearest box on the way up states, whichever way it is stated.
theorem ofPage?_spec (s : Store Float32) (page : ObjectId) :
    (∀ b, ofPage? s page = some b ↔ s.HasMediaBox Store.chainLimit page b) ∧
    (∀ b, ofPage? s page = some b → b.x₀ < b.x₁ ∧ b.y₀ < b.y₁) ∧
    ∀ (s' : Store Float32) (page' : ObjectId) (p q p' q' : Position Float32),
      s.StatesCorners Store.chainLimit page p q → s'.StatesCorners Store.chainLimit page' p' q' →
      SameRectangle p q p' q' → ofPage? s' page' = ofPage? s page := by
  refine ⟨fun b => ofPage?_eq_some_iff, fun b h => ?_, fun s' page' p q p' q' h h' hsame => ?_⟩
  · obtain ⟨_, _, -, hspans⟩ := ofPage?_eq_some_iff.1 h
    exact hspans.corners_lt
  · refine Option.ext fun b => ?_
    rw [ofPage?_eq_some_iff_spans h, ofPage?_eq_some_iff_spans h', hsame.spans_iff]

-- One page states its corners in its own array, the other in an array of the node above it, in
-- another order, with a number that is an object of its own and an item that is no number.
theorem ofPage?_spec_letter :
    let own : List (Object Float32) := [.integer 0, .integer 0, .integer 612, .integer 792]
    let shared : List (Object Float32) :=
      [.integer 612, .reference ⟨5, 0⟩, .null, .integer 0, .integer 792]
    let s : Store Float32 := { objects := [
      (⟨1, 0⟩, .object (.dictionary [(Bytes.ofText "MediaBox", .array own)])),
      (⟨2, 0⟩, .object (.dictionary [(Bytes.ofText "Parent", .reference ⟨3, 0⟩)])),
      (⟨3, 0⟩, .object (.dictionary [(Bytes.ofText "MediaBox", .reference ⟨4, 0⟩)])),
      (⟨4, 0⟩, .object (.array shared)),
      (⟨5, 0⟩, .object (.integer 0))] }
    (∃ b, ofPage? s ⟨1, 0⟩ = some b ∧ b.x₀ < b.x₁ ∧ b.y₀ < b.y₁) ∧
      ofPage? s ⟨2, 0⟩ = ofPage? s ⟨1, 0⟩ := by
  intro own shared s
  have hown : s.StatesCorners Store.chainLimit ⟨1, 0⟩ ⟨ofInt 0, ofInt 0⟩ ⟨ofInt 612, ofInt 792⟩ :=
    Store.statesCorners_iff.2 ⟨_, own, rfl, rfl, rfl⟩
  have hshared :
      s.StatesCorners Store.chainLimit ⟨2, 0⟩ ⟨ofInt 612, ofInt 0⟩ ⟨ofInt 0, ofInt 792⟩ :=
    Store.statesCorners_iff.2 ⟨_, shared, rfl, rfl, rfl⟩
  have ⟨hiff, hlt, hsame⟩ := ofPage?_spec s ⟨1, 0⟩
  have hbox : ofPage? s ⟨1, 0⟩ = some (.ofDimensions .letter) := (hiff _).2 ⟨_, _, hown,
    .inl ⟨rfl, rfl⟩, .inl ⟨rfl, rfl⟩, by decide +kernel, by decide +kernel⟩
  exact ⟨⟨_, hbox, hlt _ hbox⟩, hsame s ⟨2, 0⟩ _ _ _ _ hown hshared
    ⟨.inr ⟨rfl, rfl⟩, .inl ⟨rfl, rfl⟩⟩⟩

-- A page that is its own parent.
example : ofPage? (α := Float32) { objects := [
    (⟨1, 0⟩, .object (.dictionary [(Bytes.ofText "Parent", .reference ⟨1, 0⟩)]))] } ⟨1, 0⟩ =
      none :=
  rfl

/-! ### Long chains of references -/

-- Objects that refer one to the next, down to a last one.
def chain (last : Indirect α) : Nat → List (ObjectId × Indirect α)
  | 0 => [(⟨0, 0⟩, last)]
  | n + 1 => (⟨n + 1, 0⟩, .object (.reference ⟨n, 0⟩)) :: chain last n

theorem lookup_cons_of_le {first : Indirect α} {objects : List (ObjectId × Indirect α)}
    (h : n ≤ m) : ((⟨m + 1, 0⟩, first) :: objects).lookup ⟨n, 0⟩ = objects.lookup ⟨n, 0⟩ := by
  have hne : ((⟨n, 0⟩ : ObjectId) == ⟨m + 1, 0⟩) = false := by
    rw [beq_eq_false_iff_ne, ne_eq, ObjectId.mk.injEq]
    omega
  rw [List.lookup_cons, hne]

theorem lookup_chain_of_le (last : Indirect α) (h : n ≤ m) :
    (chain last m).lookup ⟨n, 0⟩ = (chain last n).lookup ⟨n, 0⟩ := by
  induction m, h using Nat.le_induction with
  | base => rfl
  | succ m h ih => rw [chain, lookup_cons_of_le h, ih]

def letterCorners : List (Object Float32) :=
  [.integer 0, .integer 0, .integer 612, .integer 792]

-- A page whose box is behind so many objects that refer one to the next.
def farAway (n : Nat) : Store Float32 where
  objects := (⟨n + 1, 0⟩, .object (.dictionary [(Bytes.ofText "MediaBox", .reference ⟨n, 0⟩)])) ::
    chain (.object (.array letterCorners)) n

theorem leads_farAway (h : n ≤ m) : (farAway m).Leads (.object (.reference ⟨n, 0⟩)) (n + 1)
    (.object (.array letterCorners)) := by
  have hat {k : Nat} (hk : k ≤ m) : (farAway m).at? ⟨k, 0⟩ =
      (chain (.object (.array letterCorners)) k).lookup ⟨k, 0⟩ :=
    (lookup_cons_of_le hk).trans (lookup_chain_of_le _ hk)
  induction n with
  | zero =>
    refine .next ((hat h).trans (List.lookup_cons_self ..)) (.here ?_)
    rintro _ ⟨⟩
  | succ n ih =>
    exact .next ((hat h).trans (List.lookup_cons_self ..)) (ih (Nat.le_of_succ_le h))

theorem leads_farAway_page (n : Nat) :
    (farAway n).Leads (.object (.reference ⟨n + 1, 0⟩)) 1
      (.object (.dictionary [(Bytes.ofText "MediaBox", .reference ⟨n, 0⟩)])) := by
  refine .next (List.lookup_cons_self ..) (.here ?_)
  rintro _ ⟨⟩

theorem hasMediaBox_farAway_iff :
    (farAway n).HasMediaBox limit ⟨n + 1, 0⟩ (.ofDimensions .letter) ↔ (n + 1 : Nat) ≤ limit := by
  have hkey : Dictionary.get? [(Bytes.ofText "MediaBox", Object.reference ⟨n, 0⟩)] "MediaBox" =
      some (.reference ⟨n, 0⟩ : Object Float32) := by
    simp [Dictionary.get?, Dictionary.find?]
  constructor
  case mp =>
    rintro ⟨p, q, ⟨value, items, hnearest, ⟨k, hk, hleads⟩, -⟩, -⟩
    obtain ⟨d, hnode⟩ := hnearest.exists_isNode
    cases Store.LeadsWithin.unique hnode (leads_farAway_page n)
    cases (hnode.nearest_iff_of_some hkey).1 hnearest
    obtain ⟨rfl, -⟩ := hleads.unique (leads_farAway le_rfl)
    exact hk
  case mpr =>
    intro h
    have hnode : (farAway n).IsNode limit ⟨n + 1, 0⟩ _ :=
      ⟨1, le_trans (by simp) h, leads_farAway_page n⟩
    have hinteger (i : Int) : (farAway n).StandsFor limit (.integer i) (ofInt i) :=
      ⟨_, .of_solid (by rintro _ ⟨⟩), .integer i⟩
    refine ⟨⟨ofInt 0, ofInt 0⟩, ⟨ofInt 612, ofInt 792⟩, ⟨_, _,
      (hnode.nearest_iff_of_some hkey).2 rfl, ⟨n + 1, h, leads_farAway le_rfl⟩, ?_⟩, ?_⟩
    · exact .number (hinteger 0) (.number (hinteger 0)
        (.number (hinteger 612) (.number (hinteger 792) .nil)))
    · exact ⟨.inl ⟨rfl, rfl⟩, .inl ⟨rfl, rfl⟩, by decide +kernel, by decide +kernel⟩

-- Where the box is behind more references than are followed, the page has none.
theorem ofPage?_farAway : ¬ ∀ b, ofPage? (farAway 199) ⟨200, 0⟩ = some b ↔
    (farAway 199).HasMediaBox ⊤ ⟨200, 0⟩ b := by
  intro h
  have hbox := (h (.ofDimensions .letter)).2 (hasMediaBox_farAway_iff.2 le_top)
  rw [ofPage?_eq_some_iff, hasMediaBox_farAway_iff, Nat.cast_le] at hbox
  exact absurd hbox (by decide)

end PageBox
end Pdf
end AccessReport
