import AccessReport.Proofs.Building

namespace AccessReport

open Coordinate Pdf

variable {m : Type → Type} [Monad m] {α : Type} [Coordinate α]

-- A program that changes a document bit by bit and may fail on the way; what was changed before it
-- failed stays changed.
abbrev Writer (m : Type → Type) (α β : Type) : Type :=
  ExceptT Failure (StateT (Document α) m) β

namespace Writer

/-! ### Renderers bit by bit -/

def line (text : String) : Writer m α Unit :=
  modify (·.writeLine text)

def addFigure (figure : Stream α) : Writer m α ObjectId :=
  modifyGet (·.addFigure figure)

-- Copies the resources of a page; `n` says what was copied before.
def copyForm (source : Store α) (n : Numbering) (page : ObjectId) :
    Writer m α (Stream α × Numbering) :=
  modifyGet fun d =>
    let (form, c) := Document.copyForm source ⟨n, d.store⟩ page
    ((form, c.numbering), { d with store := c.target })

def copyForms (source : Store α) : Numbering → List ObjectId → Writer m α (List (Stream α))
  | _, [] => pure []
  | n, page :: pages => do
    let (form, n) ← copyForm source n page
    let forms ← copyForms source n pages
    pure (form :: forms)

def appendFigures (size : Dimensions α) : List (Stream α × PageBox α) → Writer m α Unit
  | [] => pure ()
  | (form, box) :: forms => do
    let id ← addFigure form
    modify (·.appendFigurePage id (Placement.fitCentered box.dimensions size))
    appendFigures size forms

-- What can fail without looking at the document.
def attempt {β : Type} (x : Except Failure β) : Writer m α β :=
  ExceptT.mk (pure x)

-- The line comes before the pages are copied.
def embed (data : Bytes) (size : Dimensions α) : Writer m α Unit := do
  let _ ← attempt (version data)
  let source : Store α ← attempt ((load data).mapError Failure.ofPdf)
  line (Document.announcement source.pages.length)
  let forms ← copyForms source [] source.pages
  appendFigures size (forms.zip (source.pages.map (Document.boxOf source)))

def addMask (p : Picture.Raster) : Writer m α (Option ObjectId) :=
  match p.alpha with
  | some alpha => do
    let id ← addFigure (Document.plane p.width p.height "DeviceGray" alpha none)
    pure (some id)
  | none => pure none

def image (data : Bytes) (page : Dimensions α) (proportion : α) : Writer m α Unit := do
  let p ← attempt ((Picture.decode data).mapError Failure.ofPicture)
  attempt <| if p.width = 0 || p.height = 0 then
    .error (.imageDecode "image has no pixels") else .ok ()
  let mask ← addMask p
  let id ← addFigure (Document.plane p.width p.height "DeviceRGB" p.rgb mask)
  let natural : Dimensions α := ⟨ofInt p.width, ofInt p.height⟩
  modify (·.drawFigure id (Placement.picture natural page proportion)
    (Placement.picturePosition natural page proportion).y)

def word (converter : Option (Converter m)) (data : Bytes) (filename : String)
    (size : Dimensions α) : Writer m α Unit :=
  match converter with
  | none => attempt (.error (.conversion "no document converter configured"))
  | some convert => do
    let converted ← ExceptT.mk (StateT.lift (convert data filename))
    attempt <| if isPdf converted then .ok () else .error (.conversion
      ("converter returned " ++ natText converted.length ++ " bytes that are not a PDF"))
    embed converted size

def render (r : Renderer) (ctx : Rendering m α) (info : AttachmentInfo) (data : Bytes) :
    Writer m α Unit :=
  match r with
  | .image => image data ctx.pageSize ctx.imageProportion
  | .pdf => embed data ctx.pageSize
  | .word => word ctx.converter data info.filename ctx.pageSize
  | .placeholder => line (Document.unsupportedLine info.contentType)

/-! ### What they come to -/

-- What a program that answers a new document, or fails, comes to for the document it began with.
def settle (d : Document α) : Except Failure (Document α) → Except Failure Unit × Document α
  | .error failure => (.error failure, d)
  | .ok e => (.ok (), e)

variable [LawfulMonad m] {d : Document α} {data : Bytes} {size : Dimensions α}

omit [Coordinate α] in
theorem run_bind_pure {β γ : Type} {x : Writer m α β} {f : β → Writer m α γ} {b : β}
    {e : Document α} (h : x.run.run d = pure (.ok b, e)) :
    (x >>= f).run.run d = (f b).run.run e := by
  simp [ExceptT.run_bind, StateT.run_bind, h]

omit [Coordinate α] in
theorem run_attempt_ok {β γ : Type} {f : β → Writer m α γ} (b : β) :
    (attempt (.ok b) >>= f).run.run d = (f b).run.run d :=
  run_bind_pure rfl

omit [Coordinate α] in
theorem run_attempt_error {β γ : Type} {f : β → Writer m α γ} (failure : Failure) :
    (attempt (.error failure) >>= f).run.run d = pure (.error failure, d) := by
  simp [ExceptT.run_bind, attempt]

omit [Coordinate α] in
theorem run_lift_bind {β γ : Type} {x : m (Except Failure β)} {f : β → Writer m α γ} :
    (ExceptT.mk (StateT.lift x) >>= f).run.run d = x >>= fun
      | .error failure => pure (.error failure, d)
      | .ok b => (f b).run.run d := by
  simp only [ExceptT.run_bind, ExceptT.run_mk, StateT.run_bind, StateT.run_lift, bind_assoc,
    pure_bind]
  congr 1
  funext outcome
  cases outcome <;> rfl

omit [Coordinate α] in
theorem run_modifyGet {β : Type} (f : Document α → β × Document α) :
    (modifyGet f : Writer m α β).run.run d = pure (.ok (f d).1, (f d).2) := by
  have h : (modifyGet f : Writer m α β).run.run d =
      (pure (f d) >>= fun p => pure (.ok p.1, p.2) : m (Except Failure β × Document α)) := rfl
  rw [h, pure_bind]

omit [Coordinate α] in
theorem run_modify (f : Document α → Document α) :
    (modify f : Writer m α Unit).run.run d = pure (.ok (), f d) :=
  run_modifyGet _

theorem run_line (text : String) :
    (line text : Writer m α Unit).run.run d = pure (.ok (), d.writeLine text) :=
  run_modifyGet _

omit [Coordinate α] in
theorem run_addFigure (figure : Stream α) :
    (addFigure figure : Writer m α ObjectId).run.run d =
      pure (.ok (d.addFigure figure).1, (d.addFigure figure).2) :=
  run_modifyGet _

theorem run_copyForm (source : Store α) (n : Numbering) (page : ObjectId) :
    (copyForm source n page : Writer m α _).run.run d =
      pure (.ok ((Document.copyForm source ⟨n, d.store⟩ page).1,
          (Document.copyForm source ⟨n, d.store⟩ page).2.numbering),
        { d with store := (Document.copyForm source ⟨n, d.store⟩ page).2.target }) :=
  run_modifyGet _

theorem run_copyForms (source : Store α) (n : Numbering) (pages : List ObjectId) :
    (copyForms source n pages : Writer m α _).run.run d =
      pure (.ok (Document.copyForms source ⟨n, d.store⟩ pages).1,
        { d with store := (Document.copyForms source ⟨n, d.store⟩ pages).2.target }) := by
  induction pages generalizing n d with
  | nil => rfl
  | cons page pages ih =>
    rw [copyForms, run_bind_pure (run_copyForm ..), run_bind_pure (ih _)]
    rfl

theorem run_appendFigures (forms : List (Stream α × PageBox α)) :
    (appendFigures size forms : Writer m α Unit).run.run d =
      pure (.ok (), d.appendFigures size forms) := by
  induction forms generalizing d with
  | nil => rfl
  | cons form forms ih =>
    rw [appendFigures, run_bind_pure (run_addFigure _), run_bind_pure (run_modify _), ih]
    rfl

-- A file that cannot be read is noticed before the line is written.
theorem run_embed : (embed data size : Writer m α Unit).run.run d =
    pure (settle d (Renderer.embedPdf d data size)) := by
  unfold embed Renderer.embedPdf Document.embed
  cases version data with
  | error failure => rw [run_attempt_error]; rfl
  | ok v =>
    rw [run_attempt_ok]
    cases (load data : Except Fault (Store α)) with
    | error fault => rw [Except.mapError, run_attempt_error]; rfl
    | ok source =>
      rw [Except.mapError, run_attempt_ok, run_bind_pure (run_line _),
        run_bind_pure (run_copyForms ..), run_appendFigures]
      rfl

theorem run_addMask_bind {β : Type} {f : ObjectId → Writer m α β} (p : Picture.Raster) :
    (addMask p >>= fun mask =>
      addFigure (Document.plane p.width p.height "DeviceRGB" p.rgb mask) >>= f).run.run d =
      (f (d.addPicture p).1).run.run (d.addPicture p).2 := by
  unfold addMask Document.addPicture
  cases p.alpha with
  | none => rw [pure_bind, run_bind_pure (run_addFigure _)]
  | some alpha =>
    dsimp only
    rw [bind_assoc, run_bind_pure (run_addFigure _), pure_bind, run_bind_pure (run_addFigure _)]

theorem run_image {proportion : α} : (image data size proportion : Writer m α Unit).run.run d =
    pure (settle d (Renderer.drawImage d data size proportion)) := by
  unfold image Renderer.drawImage
  cases Picture.decode data with
  | error fault => rw [Except.mapError, run_attempt_error]; rfl
  | ok p =>
    rw [Except.mapError, run_attempt_ok]
    dsimp only
    split
    case isTrue => rw [run_attempt_error]; rfl
    case isFalse => rw [run_attempt_ok, run_addMask_bind, run_modify]; rfl

theorem run_converted (converted : Bytes) :
    (do
      attempt <| if isPdf converted then .ok () else .error (.conversion
        ("converter returned " ++ natText converted.length ++ " bytes that are not a PDF"))
      embed converted size : Writer m α Unit).run.run d =
    pure (settle d (Renderer.embedConverted d converted size)) := by
  unfold Renderer.embedConverted
  split
  case isTrue => rw [run_attempt_ok, run_embed]
  case isFalse => rw [run_attempt_error]; rfl

-- Bit by bit a renderer does what it does at once, and undoes nothing when it fails.
theorem run_render (r : Renderer) (ctx : Rendering m α) (info : AttachmentInfo) :
    (render r ctx info data).run.run d = settle d <$> r.render ctx d info data := by
  cases r with
  | image => rw [Renderer.render, map_pure]; exact run_image
  | pdf => rw [Renderer.render, map_pure]; exact run_embed
  | word =>
    simp only [render, word, Renderer.render]
    cases ctx.converter with
    | none => rw [map_pure]; rfl
    | some convert =>
      rw [map_bind, run_lift_bind]
      congr 1
      funext outcome
      cases outcome with
      | error failure => rw [map_pure]; rfl
      | ok converted => rw [map_pure]; exact run_converted converted
  | placeholder => rw [Renderer.render, map_pure]; exact run_line _

-- A renderer that fails leaves the whole document as it was, whatever a converter does; the
-- placeholder never fails.
theorem render_keeps_failed {σ : Type} (r : Renderer) (ctx : Rendering (StateM σ) α)
    (d : Document α) (info : AttachmentInfo) (data : Bytes) (w : σ) :
    (∀ failure d' w', ((render r ctx info data).run.run d).run w = ((.error failure, d'), w') →
      d' = d) ∧
    (∃ e, ((render .placeholder ctx info data).run.run d).run w = ((.ok (), e), w)) ∧
    ((render r ctx info data).run.run d).run w =
      (settle d ((r.render ctx d info data).run w).1, ((r.render ctx d info data).run w).2) := by
  have hrun : ((render r ctx info data).run.run d).run w =
      (settle d ((r.render ctx d info data).run w).1, ((r.render ctx d info data).run w).2) := by
    rw [run_render]
    rfl
  refine ⟨fun failure d' w' h => ?_, ?_, hrun⟩
  · rw [hrun] at h
    have hd := congrArg (·.1) h
    cases hr : ((r.render ctx d info data).run w).1 with
    | error failure =>
      rw [hr] at hd
      exact (congrArg Prod.snd hd).symm
    | ok e =>
      rw [hr] at hd
      cases congrArg Prod.fst hd
  · exact ⟨d.writeLine (Document.unsupportedLine info.contentType), by rw [run_render]; rfl⟩

-- A converter that counts its calls and answers nothing.
def emptyConverter : Converter (StateM Nat) :=
  fun _ _ => modifyGet fun calls => (.ok [], calls + 1)

theorem render_keeps_failed_word : ∃ failure d',
    ((render .word ⟨Document.sampleLayout.page, 1, some emptyConverter⟩
      ⟨1, "letter.doc", "Letter", "application/msword"⟩ [1, 2]).run.run
        (Document.poster Document.sampleLayout)).run 0 = ((.error failure, d'), 1) ∧
      d' = Document.poster Document.sampleLayout := by
  refine ⟨_, _, rfl, ?_⟩
  exact (render_keeps_failed .word ⟨Document.sampleLayout.page, 1, some emptyConverter⟩
    (Document.poster Document.sampleLayout) ⟨1, "letter.doc", "Letter", "application/msword"⟩
    [1, 2] 0).1 _ _ 1 rfl

end Writer
end AccessReport
