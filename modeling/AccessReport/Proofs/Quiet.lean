import AccessReport.Command.Session
import AccessReport.Proofs.SectionFiles

namespace AccessReport

variable {σ ε : Type} {β γ : Type}

-- The computation leaves the world as it is, whatever comes of it.
def Quiet (x : StateM σ β) : Prop :=
  ∀ w, (x.run w).run.2 = w

namespace Quiet

theorem pure (y : β) : Quiet (Pure.pure y : StateM σ β) :=
  fun _ => rfl

theorem bind {x : StateM σ β} {f : β → StateM σ γ} (hx : Quiet x) (hf : ∀ y, Quiet (f y)) :
    Quiet (x >>= f) :=
  fun w => (hf _ _).trans (hx w)

variable {x : ExceptT ε (StateM σ) β} {f : β → ExceptT ε (StateM σ) γ}

theorem run_bind (hx : Quiet x.run) (hf : ∀ y, Quiet (f y).run) : Quiet (x >>= f).run := by
  rw [ExceptT.run_bind]
  refine hx.bind fun outcome => ?_
  cases outcome with
  | error failure => exact .pure _
  | ok y => exact hf y

theorem adapt {ε' : Type} {g : ε → ε'} (hx : Quiet x.run) : Quiet (x.adapt g).run :=
  hx

theorem mapM {xs : List β} (hf : ∀ y, Quiet (f y).run) : Quiet (xs.mapM f).run := by
  induction xs with
  | nil => exact .pure _
  | cons y ys ih =>
    rw [List.mapM_cons]
    exact (hf y).run_bind fun _ => ih.run_bind fun _ => .pure _

theorem foldlM {g : γ → β → ExceptT ε (StateM σ) γ} {xs : List β} {z : γ}
    (hg : ∀ z, ∀ y ∈ xs, Quiet (g z y).run) : Quiet (xs.foldlM g z).run := by
  induction xs generalizing z with
  | nil => exact .pure _
  | cons y ys ih =>
    rw [List.foldlM_cons]
    exact (hg z y (.head _)).run_bind fun z => ih fun z y hy => hg z y (.tail _ hy)

end Quiet

/-! ### Loading -/

variable {disk : Disk (StateM σ)}

namespace AttachmentStore

end AttachmentStore

namespace Manifest

end Manifest

namespace Session

variable {s : Session (StateM σ)}

end Session

/-! ### Assembling -/

namespace Assembler

variable {α : Type} [Coordinate α] {a : Assembler (StateM σ) α}

end Assembler

end AccessReport
