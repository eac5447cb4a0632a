import AccessReport.Proofs.Assembly

namespace AccessReport

open Coordinate Pdf

/-! ### Items of a report -/

-- What a report is rendered from, piece by piece.
inductive Item (m : Type → Type) where
  -- what a section shows of its own
  | block (s : Section m)
  | attachment (service : String) (x : Attachment m)

variable {σ α : Type}

namespace Section

def items {m : Type → Type} (s : Section m) : List (Item m) :=
  .block s :: s.attachments.map (.attachment s.service)

end Section

namespace Request

-- In the order in which they are rendered.
def items {m : Type → Type} (r : Request m) : List (Item m) :=
  r.sections.flatMap Section.items

end Request

variable [Coordinate α]

namespace Renderer

-- Whether an operation fails, and how, does not depend on the document.
def Uniform (f : Document α → Except Failure (Document α)) : Prop :=
  (∀ d, ∃ e, f d = .ok e) ∨ ∃ failure, ∀ d, f d = .error failure

variable (bytes : Bytes) (page : Dimensions α)

theorem uniform_drawImage (proportion : α) :
    Uniform fun d => drawImage d bytes page proportion := by
  unfold drawImage
  cases Picture.decode bytes with
  | error fault => exact .inr ⟨_, fun _ => rfl⟩
  | ok p =>
    dsimp only
    split
    · exact .inr ⟨_, fun _ => rfl⟩
    · exact .inl fun _ => ⟨_, rfl⟩

theorem uniform_embedPdf : Uniform fun d => embedPdf d bytes page := by
  unfold embedPdf Document.embed
  cases version bytes with
  | error failure => exact .inr ⟨_, fun _ => rfl⟩
  | ok v =>
    cases (load bytes : Except Fault (Store α)) with
    | error fault => exact .inr ⟨_, fun _ => rfl⟩
    | ok source => exact .inl fun _ => ⟨_, rfl⟩

theorem uniform_embedConverted : Uniform fun d => embedConverted d bytes page := by
  unfold embedConverted
  split
  · exact uniform_embedPdf bytes page
  · exact .inr ⟨_, fun _ => rfl⟩

-- The same for a renderer, which may also change the world.
theorem render_uniform (r : Renderer) (ctx : Rendering (StateM σ) α) (info : AttachmentInfo)
    (bytes : Bytes) (w : σ) : ∃ f w', Uniform f ∧
      ∀ d : Document α, ((r.render ctx d info bytes).run w).run = (f d, w') := by
  cases r with
  | image => exact ⟨_, w, uniform_drawImage .., fun _ => rfl⟩
  | pdf => exact ⟨_, w, uniform_embedPdf .., fun _ => rfl⟩
  | word =>
    cases hc : ctx.converter with
    | none =>
      have hr (d : Document α) : ((render .word ctx d info bytes).run w).run =
          (.error (.conversion "no document converter configured"), w) := by
        simp only [render, hc]
        rfl
      exact ⟨_, w, .inr ⟨_, fun _ => rfl⟩, hr⟩
    | some convert =>
      cases hv : (convert bytes info.filename).run w with
      | mk outcome w₁ =>
        cases outcome with
        | error failure =>
          refine ⟨_, w₁, .inr ⟨failure, fun _ => rfl⟩, fun _ => ?_⟩
          simp only [render, hc, StateT.run_bind, hv]
          rfl
        | ok converted =>
          refine ⟨_, w₁, uniform_embedConverted converted ctx.pageSize, fun _ => ?_⟩
          simp only [render, hc, StateT.run_bind, hv]
          rfl
  | placeholder => exact ⟨_, w, .inl fun _ => ⟨_, rfl⟩, fun _ => rfl⟩

end Renderer

namespace Assembler

variable (a : Assembler (StateM σ) α)

-- How an item ends that is rendered in the world `w`, whatever it is rendered behind.
inductive Ends (w : σ) : Item (StateM σ) → Except Failure Unit → σ → Prop
  | listing {s : Section (StateM σ)} (ht : a.templates.find? s.service = none) :
      Ends w (.block s) (.ok ()) w
  | template {s : Section (StateM σ)} {t : Template} {block : String}
      (ht : a.templates.find? s.service = some t)
      (hb : t.render (Content.normalize? s.content) = .ok block) : Ends w (.block s) (.ok ()) w
  | templateFails {s : Section (StateM σ)} {t : Template} {source : Failure}
      (ht : a.templates.find? s.service = some t)
      (hb : t.render (Content.normalize? s.content) = .error source) :
      Ends w (.block s) (.error (.template s.service source)) w
  | numberZero {service : String} {x : Attachment (StateM σ)} (hn : x.info.number = 0) :
      Ends w (.attachment service x) (.error (.attachment service x.info.number x.info.filename
        (.other "attachment numbers start at 1"))) w
  | readFails {service : String} {x : Attachment (StateM σ)} {detail : String} {w' : σ}
      (hn : 0 < x.info.number) (hr : (x.read.run w).run = (.error detail, w')) :
      Ends w (.attachment service x) (.error (.attachment service x.info.number x.info.filename
        (.io detail))) w'
  | renderFails {service : String} {x : Attachment (StateM σ)} {bytes : Bytes} {w₁ w' : σ}
      {source : Failure} (hn : 0 < x.info.number) (hr : (x.read.run w).run = (.ok bytes, w₁))
      (hd : ∀ d, (((a.renderers.resolve x.info.contentType).render a.rendering d x.info bytes).run
        w₁).run = (.error source, w')) :
      Ends w (.attachment service x) (.error (.attachment service x.info.number x.info.filename
        source)) w'
  | rendered {service : String} {x : Attachment (StateM σ)} {bytes : Bytes} {w₁ w' : σ}
      (hn : 0 < x.info.number) (hr : (x.read.run w).run = (.ok bytes, w₁))
      (hd : ∀ d, ∃ e, (((a.renderers.resolve x.info.contentType).render a.rendering d x.info
        bytes).run w₁).run = (.ok e, w')) : Ends w (.attachment service x) (.ok ()) w'

-- How items end that are rendered one after the other, each in the world that the one before
-- leaves behind; there is nothing after one that fails.
inductive Proceeds : σ → List (Item (StateM σ)) → Except Failure Unit → σ → Prop
  | done (w : σ) : Proceeds w [] (.ok ()) w
  | next {w w₁ w' : σ} {item : Item (StateM σ)} {items : List (Item (StateM σ))}
      {outcome : Except Failure Unit} (hi : a.Ends w item (.ok ()) w₁)
      (hr : Proceeds w₁ items outcome w') : Proceeds w (item :: items) outcome w'
  | stop {w w' : σ} {item : Item (StateM σ)} {items : List (Item (StateM σ))}
      {failure : Failure} (hi : a.Ends w item (.error failure) w') :
      Proceeds w (item :: items) (.error failure) w'

-- The first item to fail is the one behind `front`.
def FailsBehind (w : σ) (front : List (Item (StateM σ))) (item : Item (StateM σ))
    (failure : Failure) (w' : σ) : Prop :=
  ∃ w₁, a.Proceeds w front (.ok ()) w₁ ∧ a.Ends w₁ item (.error failure) w'

variable {a} {w w' : σ}

theorem Ends.total (a : Assembler (StateM σ) α) (w : σ) (item : Item (StateM σ)) :
    ∃ outcome w', a.Ends w item outcome w' := by
  cases item with
  | block s =>
    cases ht : a.templates.find? s.service with
    | none => exact ⟨_, _, .listing ht⟩
    | some t =>
      cases hb : t.render (Content.normalize? s.content) with
      | error source => exact ⟨_, _, .templateFails ht hb⟩
      | ok block => exact ⟨_, _, .template ht hb⟩
  | attachment service x =>
    rcases Nat.eq_zero_or_pos x.info.number with hn | hn
    · exact ⟨_, _, .numberZero hn⟩
    · cases hr : (x.read.run w).run with
      | mk read w₁ =>
        cases read with
        | error detail => exact ⟨_, _, .readFails hn hr⟩
        | ok bytes =>
          obtain ⟨f, w', hf, hd⟩ := (a.renderers.resolve x.info.contentType).render_uniform
            a.rendering x.info bytes w₁
          rcases hf with hf | ⟨source, hf⟩
          · exact ⟨_, _, .rendered hn hr fun d =>
              (hf d).imp fun _ he => (hd d).trans (congrArg (·, w') he)⟩
          · exact ⟨_, _, .renderFails hn hr fun d => (hd d).trans (congrArg (·, w') (hf d))⟩

-- A line that says that a type is not supported can always be written.
theorem Ends.of_placeholder {service : String} {x : Attachment (StateM σ)} {bytes : Bytes}
    (hn : 0 < x.info.number) (hr : (x.read.run w).run = (.ok bytes, w'))
    (hp : a.renderers.resolve x.info.contentType = .placeholder) :
    a.Ends w (.attachment service x) (.ok ()) w' := by
  refine .rendered hn hr fun d => ⟨d.writeLine (Document.unsupportedLine x.info.contentType), ?_⟩
  rw [hp]
  rfl

namespace Proceeds

variable {items : List (Item (StateM σ))} {outcome : Except Failure Unit} {failure : Failure}

theorem total (a : Assembler (StateM σ) α) (w : σ) (items : List (Item (StateM σ))) :
    ∃ outcome w', a.Proceeds w items outcome w' := by
  induction items generalizing w with
  | nil => exact ⟨_, _, .done w⟩
  | cons item items ih =>
    obtain ⟨outcome, w₁, hi⟩ := Ends.total a w item
    cases outcome with
    | error failure => exact ⟨_, _, .stop hi⟩
    | ok _ =>
      obtain ⟨outcome, w', hr⟩ := ih w₁
      exact ⟨_, _, .next hi hr⟩

-- What comes behind other items is looked at just when these end well.
theorem append_cases {front items : List (Item (StateM σ))}
    (h : a.Proceeds w (front ++ items) outcome w') :
    (∃ w₁, a.Proceeds w front (.ok ()) w₁ ∧ a.Proceeds w₁ items outcome w') ∨
      ∃ failure, outcome = .error failure ∧ a.Proceeds w front (.error failure) w' := by
  induction front generalizing w with
  | nil => exact .inl ⟨w, .done w, h⟩
  | cons item front ih =>
    cases h with
    | stop hi => exact .inr ⟨_, rfl, .stop hi⟩
    | next hi hr =>
      rcases ih hr with ⟨w₁, hf, hr⟩ | ⟨failure, rfl, hf⟩
      · exact .inl ⟨w₁, .next hi hf, hr⟩
      · exact .inr ⟨failure, rfl, .next hi hf⟩

theorem error_iff : a.Proceeds w items (.error failure) w' ↔
    ∃ front item, front ++ [item] <+: items ∧ a.FailsBehind w front item failure w' := by
  constructor
  -- By induction on the run: the items that it passes are the ones in front.
  · intro h
    generalize ho : Except.error failure = outcome at h
    induction h with
    | done => cases ho
    | stop hi =>
      cases ho
      exact ⟨[], _, by simp, _, .done _, hi⟩
    | next hi _ ih =>
      obtain ⟨front, item, hp, w₁, hf, he⟩ := ih ho
      exact ⟨_ :: front, item, by simpa using hp, w₁, .next hi hf, he⟩
  · rintro ⟨front, item, ⟨behind, rfl⟩, w₁, hf, he⟩
    generalize ho : Except.ok () = outcome at hf
    induction hf with
    | done => exact .stop he
    | next hi _ ih => exact .next hi (ih he ho)
    | stop => cases ho

end Proceeds

/-! ### Sections and attachments -/

section Sections

variable {service : String} {x : Attachment (StateM σ)} {s : Section (StateM σ)}
  {outcome : Except Failure Unit}

theorem Ends.renderAttachment (h : a.Ends w (.attachment service x) outcome w') (d : Document α) :
    Finishes (a.renderAttachment service d x) w outcome w' := by
  unfold Assembler.renderAttachment
  dsimp only
  cases h with
  | numberZero hn =>
    rw [if_pos (by simp [AttachmentInfo.hasValidNumber, hn])]
    exact Finishes.bind_of_error rfl
  | readFails hn hr =>
    rw [if_neg (by simp [AttachmentInfo.hasValidNumber, hn])]
    exact .bind_of_error (.adapt hr)
  | renderFails hn hr hd =>
    rw [if_neg (by simp [AttachmentInfo.hasValidNumber, hn])]
    exact .bind_of_yields (Yields.adapt_iff.2 hr) (.adapt (hd _))
  | rendered hn hr hd =>
    rw [if_neg (by simp [AttachmentInfo.hasValidNumber, hn])]
    obtain ⟨e, he⟩ := hd (d.startNewPage.writeHeading x.info.heading)
    exact .bind_of_yields (Yields.adapt_iff.2 hr) ⟨e, Yields.adapt_iff.2 he⟩

theorem Ends.block (h : a.Ends w (.block s) outcome w') :
    Finishes (a.block s : Except Failure String) w outcome w' := by
  unfold Assembler.block
  cases h with
  | listing ht =>
    rw [ht]
    exact ⟨_, rfl⟩
  | template ht hb =>
    simp only [ht, hb]
    exact ⟨_, rfl⟩
  | templateFails ht hb =>
    simp only [ht, hb]
    rfl

namespace Proceeds

theorem renderAttachments {xs : List (Attachment (StateM σ))}
    (h : a.Proceeds w (xs.map (.attachment service)) outcome w') (d : Document α) :
    Finishes (xs.foldlM (a.renderAttachment service) d) w outcome w' := by
  induction xs generalizing d w with
  | nil =>
    cases h
    exact ⟨d, rfl⟩
  | cons x xs ih =>
    rw [List.foldlM_cons]
    cases h with
    | next hi hr => exact (hi.renderAttachment d).bind (ih hr)
    | stop hi => exact .bind_of_error (hi.renderAttachment d)

theorem renderSection (h : a.Proceeds w s.items outcome w') (b : Body α) :
    Finishes (a.renderSection b s) w outcome w' := by
  unfold Assembler.renderSection
  dsimp only
  cases h with
  | next hi hr => exact hi.block.bind fun block => (hr.renderAttachments _).bind_pure
  | stop hi => exact .bind_of_error hi.block

theorem renderSections {sections : List (Section (StateM σ))}
    (h : a.Proceeds w (sections.flatMap Section.items) outcome w') (b : Body α) :
    Finishes (sections.foldlM a.renderSection b) w outcome w' := by
  induction sections generalizing b w with
  | nil =>
    cases h
    exact ⟨b, rfl⟩
  | cons s sections ih =>
    rw [List.foldlM_cons]
    rcases append_cases h with ⟨w₁, hs, hr⟩ | ⟨failure, rfl, hs⟩
    · exact (hs.renderSection b).bind (ih hr)
    · exact .bind_of_error (hs.renderSection b)

end Proceeds

end Sections

theorem assemble_of_fault {r : Request (StateM σ)} {fault : Options.Fault α}
    (hv : a.options.validate = .error fault) :
    ((a.assemble r).run.run w).run = (.error (.invalidOptions fault.message), w) := by
  unfold Assembler.assemble
  rw [hv]
  rfl

-- Where an item fails, the report does.
theorem Proceeds.assemble {r : Request (StateM σ)} {failure : Failure}
    (h : a.Proceeds w r.items (.error failure) w') (hv : a.options.validate = .ok ()) :
    ((a.assemble r).run.run w).run = (.error failure, w') := by
  unfold Assembler.assemble
  rw [hv]
  exact Finishes.bind_of_error (h.renderSections _)

end Assembler
end AccessReport
