import AccessReport.Failure

namespace AccessReport

variable {σ ε β γ δ : Type}

-- Whether an outcome is good can be looked at.
theorem eq_ok_of_isSome {x : Except ε β} (h : x.toOption.isSome = true) (y : β) :
    x = .ok (x.toOption.getD y) := by
  cases x with
  | error failure => cases h
  | ok x => rfl

section Outcomes

variable {x : ExceptT ε (StateM σ) β} {f : β → ExceptT ε (StateM σ) γ} {w w' : σ}

-- Behind a computation that ends well the next one runs in the world that is left behind.
theorem run_bind_of_ok {y : β} (h : (x.run.run w).run = (.ok y, w')) :
    ((x >>= f).run.run w).run = ((f y).run.run w').run := by
  simp only [ExceptT.run_bind, StateT.run_bind]
  simp [h]

theorem run_bind_of_error {failure : ε} (h : (x.run.run w).run = (.error failure, w')) :
    ((x >>= f).run.run w).run = (.error failure, w') := by
  simp only [ExceptT.run_bind, StateT.run_bind]
  simp [h]

theorem run_bind_iff {z : γ} : ((x >>= f).run.run w).run = (.ok z, w') ↔
    ∃ y w₁, (x.run.run w).run = (.ok y, w₁) ∧ ((f y).run.run w₁).run = (.ok z, w') := by
  constructor
  · intro h
    cases hx : (x.run.run w).run with
    | mk outcome w₁ =>
      cases outcome with
      | error failure =>
        rw [run_bind_of_error hx] at h
        cases h
      | ok y => exact ⟨y, w₁, rfl, (run_bind_of_ok hx).symm.trans h⟩
  · rintro ⟨y, w₁, hx, hrest⟩
    exact (run_bind_of_ok hx).trans hrest

theorem run_lift {x : StateM σ β} {y : β} (h : (x.run w).run = (y, w')) :
    ((liftM x : ExceptT ε (StateM σ) β).run.run w).run = (.ok y, w') := by
  change (Except.ok (x.run w).run.1, (x.run w).run.2) = _
  rw [h]

theorem run_adapt_iff {ε' : Type} {g : ε → ε'} {y : β} :
    ((x.adapt g).run.run w).run = (.ok y, w') ↔ (x.run.run w).run = (.ok y, w') := by
  have hrun : ((x.adapt g).run.run w).run =
      ((x.run.run w).run.1.mapError g, (x.run.run w).run.2) := rfl
  rw [hrun]
  cases hx : (x.run.run w).run with
  | mk outcome w₁ =>
    cases outcome with
    | error failure => exact ⟨nofun, nofun⟩
    | ok x => exact ⟨fun h => by cases h; rfl, fun h => by cases h; rfl⟩

end Outcomes

-- The computation takes the world `w` to `w'` and ends well.
def Yields (x : ExceptT Failure (StateM σ) β) (w : σ) (y : β) (w' : σ) : Prop :=
  (x.run.run w).run = (.ok y, w')

-- Steps one after the other, each in the world that the one before leaves behind.
inductive Threaded (R : σ → β → γ → σ → Prop) : σ → List β → List γ → σ → Prop
  | nil (w) : Threaded R w [] [] w
  | cons {w w₁ w₂ x xs y ys} : R w x y w₁ → Threaded R w₁ xs ys w₂ →
    Threaded R w (x :: xs) (y :: ys) w₂

namespace Threaded

variable {R : σ → β → γ → σ → Prop} {w w' : σ} {xs : List β} {ys : List γ}

theorem length_eq (h : Threaded R w xs ys w') : xs.length = ys.length := by
  induction h with
  | nil => rfl
  | cons _ _ ih => simp [ih]

theorem getElem? {i : Nat} {x : β} (h : Threaded R w xs ys w') (hx : xs[i]? = some x) :
    ∃ y w₁ w₂, ys[i]? = some y ∧ R w₁ x y w₂ := by
  induction h generalizing i with
  | nil => cases hx
  | cons hr _ ih =>
    cases i with
    | zero =>
      cases hx
      exact ⟨_, _, _, rfl, hr⟩
    | succ i => exact ih hx

-- Where an answer does not depend on the world, the answers are those to the single questions.
theorem eq_map {g : β → γ} (h : Threaded R w xs ys w')
    (hg : ∀ x ∈ xs, ∀ y w₁ w₂, R w₁ x y w₂ → y = g x) : ys = xs.map g := by
  induction h with
  | nil => rfl
  | cons hr _ ih =>
    rw [List.map_cons, hg _ (.head _) _ _ _ hr, ih fun x hx => hg x (.tail _ hx)]

end Threaded

namespace Yields

variable {w w' : σ} {y : β}

theorem pure_iff {x : β} : Yields (pure x) w y w' ↔ y = x ∧ w' = w := by
  constructor
  · intro h
    cases h
    exact ⟨rfl, rfl⟩
  · rintro ⟨rfl, rfl⟩
    rfl

theorem bind_iff {x : ExceptT Failure (StateM σ) β} {f : β → ExceptT Failure (StateM σ) γ}
    {z : γ} : Yields (x >>= f) w z w' ↔ ∃ y w₁, Yields x w y w₁ ∧ Yields (f y) w₁ z w' :=
  run_bind_iff

theorem not_throw {failure : Failure} :
    ¬Yields (throw failure : ExceptT Failure (StateM σ) β) w y w' :=
  nofun

theorem except_iff {x : Except Failure β} :
    Yields (x : ExceptT Failure (StateM σ) β) w y w' ↔ x = .ok y ∧ w' = w := by
  cases x with
  | error failure => exact ⟨nofun, nofun⟩
  | ok x =>
    refine pure_iff.trans ⟨?_, ?_⟩
    · rintro ⟨rfl, rfl⟩
      exact ⟨rfl, rfl⟩
    · rintro ⟨h, rfl⟩
      exact ⟨(Except.ok.inj h).symm, rfl⟩

theorem adapt_iff {ε : Type} {x : ExceptT ε (StateM σ) β} {f : ε → Failure} :
    Yields (x.adapt f) w y w' ↔ (x.run.run w).run = (.ok y, w') :=
  run_adapt_iff

theorem mapM_iff {f : β → ExceptT Failure (StateM σ) γ} {xs : List β} {ys : List γ} :
    Yields (xs.mapM f) w ys w' ↔ Threaded (fun w x y w' => Yields (f x) w y w') w xs ys w' := by
  induction xs generalizing ys w with
  | nil =>
    rw [List.mapM_nil, pure_iff]
    constructor
    · rintro ⟨rfl, rfl⟩
      exact .nil _
    · intro h
      cases h
      exact ⟨rfl, rfl⟩
  | cons x xs ih =>
    rw [List.mapM_cons, bind_iff]
    constructor
    · rintro ⟨y, w₁, hx, hrest⟩
      obtain ⟨ys, w₂, hxs, hpure⟩ := bind_iff.1 hrest
      obtain ⟨rfl, rfl⟩ := pure_iff.1 hpure
      exact .cons hx (ih.1 hxs)
    · intro h
      cases h with
      | cons hx hxs => exact ⟨_, _, hx, bind_iff.2 ⟨_, _, ih.2 hxs, pure_iff.2 ⟨rfl, rfl⟩⟩⟩

-- Whether a run ends well can be looked at.
theorem exists_of_isSome {x : ExceptT Failure (StateM σ) β}
    (h : (x.run.run w).run.1.toOption.isSome = true) : ∃ y w', Yields x w y w' := by
  unfold Yields
  cases hx : (x.run.run w).run with
  | mk outcome w' =>
    cases outcome with
    | error failure => simp [hx, Except.toOption] at h
    | ok y => exact ⟨y, w', rfl⟩

-- A run without a world can be looked at.
theorem exists_of_any {x : ExceptT Failure (StateM Unit) β} {p : β → Bool}
    (h : (x.run.run ()).run.1.toOption.any p = true) : ∃ y, Yields x () y () ∧ p y = true := by
  unfold Yields
  cases hx : (x.run.run ()).run with
  | mk outcome w =>
    cases outcome with
    | error failure => simp [hx, Except.toOption] at h
    | ok y => exact ⟨y, rfl, by simpa [hx, Except.toOption] using h⟩

end Yields

-- The computation takes the world `w` to `w'` and ends like that, whatever it yields.
def Finishes (x : ExceptT Failure (StateM σ) β) (w : σ) : Except Failure Unit → σ → Prop
  | .ok (), w'         => ∃ y, Yields x w y w'
  | .error failure, w' => (x.run.run w).run = (.error failure, w')

namespace Finishes

variable {x : ExceptT Failure (StateM σ) β} {f : β → ExceptT Failure (StateM σ) γ} {w w₁ w' : σ}
  {outcome : Except Failure Unit} {failure : Failure} {y : β}

theorem bind_of_yields (hx : Yields x w y w₁) (hf : Finishes (f y) w₁ outcome w') :
    Finishes (x >>= f) w outcome w' := by
  cases outcome with
  | error failure => exact (run_bind_of_ok hx).trans hf
  | ok _ =>
    obtain ⟨z, hz⟩ := hf
    exact ⟨z, (run_bind_of_ok hx).trans hz⟩

theorem bind (hx : Finishes x w (.ok ()) w₁) (hf : ∀ y, Finishes (f y) w₁ outcome w') :
    Finishes (x >>= f) w outcome w' := by
  obtain ⟨y, hy⟩ := hx
  exact bind_of_yields hy (hf y)

theorem bind_of_error (hx : Finishes x w (.error failure) w') :
    Finishes (x >>= f) w (.error failure) w' :=
  run_bind_of_error hx

theorem adapt {ε : Type} {x : ExceptT ε (StateM σ) β} {g : ε → Failure} {detail : ε}
    (hx : (x.run.run w).run = (.error detail, w')) :
    Finishes (x.adapt g) w (.error (g detail)) w' := by
  change ((x.run.run w).run.1.mapError g, (x.run.run w).run.2) = _
  rw [hx]
  rfl

theorem bind_pure {g : β → γ} (hx : Finishes x w outcome w') :
    Finishes (x >>= fun y => pure (g y)) w outcome w' := by
  cases outcome with
  | error failure => exact bind_of_error hx
  | ok _ =>
    obtain ⟨y, hy⟩ := hx
    exact bind_of_yields hy ⟨g y, rfl⟩

-- A computation ends in one way only.
theorem unique {outcome₁ : Except Failure Unit} (h : Finishes x w outcome w')
    (h₁ : Finishes x w outcome₁ w₁) : outcome = outcome₁ ∧ w' = w₁ := by
  cases outcome with
  | error failure =>
    cases outcome₁ with
    | error failure₁ =>
      obtain ⟨he, rfl⟩ := Prod.mk.inj (h.symm.trans h₁)
      exact ⟨congrArg _ (Except.error.inj he), rfl⟩
    | ok _ =>
      obtain ⟨y, hy⟩ := h₁
      cases (Prod.mk.inj (h.symm.trans hy)).1
  | ok _ =>
    obtain ⟨y, hy⟩ := h
    cases outcome₁ with
    | error failure₁ => cases (Prod.mk.inj (hy.symm.trans h₁)).1
    | ok _ =>
      obtain ⟨z, hz⟩ := h₁
      exact ⟨rfl, (Prod.mk.inj (hy.symm.trans hz)).2⟩

end Finishes

end AccessReport
