import AccessReport.Proofs.Dictionary

namespace AccessReport
namespace Pdf

variable {α : Type}

namespace Store

theorem at?_cons {s : Store α} (id k : ObjectId) (o : Indirect α) (maxId : Nat)
    (trailer : Dictionary α) :
    Store.at? ⟨(id, o) :: s.objects, maxId, trailer⟩ k = if k = id then some o else s.at? k := by
  by_cases h : k = id
  · simp [at?, h]
  · have hb : (k == id) = false := beq_eq_false_iff_ne.2 h
    simp [at?, List.lookup_cons, hb, h]

theorem at?_insert (s : Store α) (id k : ObjectId) (o : Indirect α) :
    (s.insert id o).at? k = if k = id then some o else s.at? k := by
  by_cases h : k = id
  · simp [insert, at?, h]
  · have hb : (k == id) = false := beq_eq_false_iff_ne.2 h
    simp only [insert, at?, List.lookup_cons, hb, h, if_false]
    induction s.objects with
    | nil => rfl
    | cons e es ih =>
      obtain ⟨i, x⟩ := e
      by_cases hi : i = id
      · rw [List.filter_cons_of_neg (by simp [hi]), ih, List.lookup_cons, hi, hb]
      · rw [List.filter_cons_of_pos (by simp [hi]), List.lookup_cons, List.lookup_cons, ih]

theorem insert_of_not_mem {s : Store α} {id : ObjectId} (h : id ∉ s.ids) (o : Indirect α) :
    s.insert id o = { s with objects := (id, o) :: s.objects } := by
  rw [insert, List.filter_eq_self.2]
  exact fun e he => decide_eq_true fun hn => h (List.mem_map.2 ⟨e, he, hn⟩)

theorem mem_ids_of_at? {s : Store α} {id : ObjectId} {o : Indirect α} (h : s.at? id = some o) :
    id ∈ s.ids := by
  obtain ⟨l, r, he, -⟩ := List.lookup_eq_some_iff.1 h
  simp [ids, he]

-- Every number in use was given out, so the next one is new.
def Tidy (s : Store α) : Prop :=
  ∀ id ∈ s.ids, id.number ≤ s.maxId

-- Nothing that was stored is lost or changed.
def Keeps (s s' : Store α) : Prop :=
  ∀ id o, s.at? id = some o → s'.at? id = some o

namespace Keeps

theorem refl (s : Store α) : s.Keeps s :=
  fun _ _ h => h

theorem trans {s₁ s₂ s₃ : Store α} (h₁ : s₁.Keeps s₂) (h₂ : s₂.Keeps s₃) : s₁.Keeps s₃ :=
  fun id o h => h₂ id o (h₁ id o h)

variable {s s' : Store α}

theorem follow (h : s.Keeps s') {limit : Nat} {x o : Indirect α}
    (hx : s.follow limit x = some o) : s'.follow limit x = some o := by
  induction limit generalizing x with
  | zero => cases x with
    | object x => cases x <;> simp_all [Store.follow]
    | stream x => simpa [Store.follow] using hx
  | succ limit ih => cases x with
    | object x =>
      cases x with
      | reference id =>
        rw [Store.follow] at hx ⊢
        obtain ⟨y, hy, hx⟩ := Option.bind_eq_some_iff.1 hx
        rw [h _ _ hy]
        exact ih hx
      | _ => simpa [Store.follow] using hx
    | stream x => simpa [Store.follow] using hx

-- What a number leads to stays what it was.
theorem get? (h : s.Keeps s') {id : ObjectId} {o : Indirect α} (ho : s.get? id = some o) :
    s'.get? id = some o := by
  obtain ⟨x, hx, ho⟩ := Option.bind_eq_some_iff.1 ho
  rw [Store.get?, h _ _ hx]
  exact h.follow ho

end Keeps

namespace Tidy

variable {s : Store α}

theorem number_le (h : s.Tidy) {id : ObjectId} {o : Indirect α} (ho : s.at? id = some o) :
    id.number ≤ s.maxId :=
  h id (mem_ids_of_at? ho)

theorem add (h : s.Tidy) (o : Indirect α) : (s.add o).2.Tidy := by
  intro id hid
  simp only [ids, Store.add, List.map_cons, List.mem_cons] at hid
  rcases hid with rfl | hid
  · simp [nextId, Store.add]
  · have := h id hid
    simp only [Store.add]
    omega

theorem keeps_add (h : s.Tidy) (o : Indirect α) : s.Keeps (s.add o).2 := by
  intro id x hx
  have hid : id ≠ s.nextId := by
    rintro rfl
    have := h.number_le hx
    simp only [nextId] at this
    omega
  simp [Store.add, at?_cons, hid, hx]

end Tidy

theorem at?_add (s : Store α) (o : Indirect α) : (s.add o).2.at? (s.add o).1 = some o := by
  simp [add, at?_cons]

-- What becomes of the objects while a document is written.
structure Grows (s s' : Store α) : Prop where
  tidy    : s'.Tidy
  keeps   : s.Keeps s'
  trailer : s'.trailer = s.trailer

namespace Grows

theorem refl {s : Store α} (h : s.Tidy) : s.Grows s :=
  ⟨h, .refl s, rfl⟩

theorem trans {s₁ s₂ s₃ : Store α} (h₁ : s₁.Grows s₂) (h₂ : s₂.Grows s₃) : s₁.Grows s₃ :=
  ⟨h₂.tidy, h₁.keeps.trans h₂.keeps, h₂.trailer.trans h₁.trailer⟩

end Grows

theorem Tidy.grows_add {s : Store α} (h : s.Tidy) (o : Indirect α) : s.Grows (s.add o).2 :=
  ⟨h.add o, h.keeps_add o, rfl⟩

theorem get?_of_at? {s : Store α} {id : ObjectId} {o : Indirect α} (h : s.at? id = some o)
    (ho : ∀ r, o ≠ .object (.reference r)) : s.get? id = some o := by
  simp only [get?, h, Option.bind_some]
  cases o with
  | object o =>
    cases o <;> simp_all [follow]
  | stream s => simp [follow]

end Store

end Pdf
end AccessReport
