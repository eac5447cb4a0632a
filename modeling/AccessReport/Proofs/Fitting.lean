import AccessReport.Proofs.Embedding
import AccessReport.Proofs.Headings
import Mathlib.Tactic.Linarith
import Mathlib.Tactic.FieldSimp
import Mathlib.Tactic.Ring

namespace AccessReport

open Coordinate Pdf

/-! ### The largest factor -/

namespace Dimensions

structure Positive (d : Dimensions ℚ) : Prop where
  width  : 0 < d.width
  height : 0 < d.height

variable {size bound : Dimensions ℚ} {k : ℚ}

theorem Positive.scaledBy (h : size.Positive) (hk : 0 < k) : (size.scaledBy k).Positive where
  width  := mul_pos h.width hk
  height := mul_pos h.height hk

theorem scaleToFit_exact : size.scaleToFit bound =
    min (bound.width / size.width) (bound.height / size.height) :=
  smaller_exact _ _

theorem scaleToFit_pos (hs : size.Positive) (hb : bound.Positive) : 0 < size.scaleToFit bound := by
  rw [scaleToFit_exact]
  exact lt_min (div_pos hb.width hs.width) (div_pos hb.height hs.height)

theorem le_scaleToFit_iff (hs : size.Positive) (bound : Dimensions ℚ) :
    k ≤ size.scaleToFit bound ↔
      k * size.width ≤ bound.width ∧ k * size.height ≤ bound.height := by
  rw [scaleToFit_exact, le_min_iff, le_div_iff₀ hs.width, le_div_iff₀ hs.height]

theorem scaleToFit_mul_eq (hs : size.Positive) (bound : Dimensions ℚ) :
    size.scaleToFit bound * size.width = bound.width ∨
      size.scaleToFit bound * size.height = bound.height := by
  rw [scaleToFit_exact]
  refine (min_choice (bound.width / size.width) (bound.height / size.height)).imp
    (fun h => ?_) (fun h => ?_) <;> rw [h]
  · exact div_mul_cancel₀ _ hs.width.ne'
  · exact div_mul_cancel₀ _ hs.height.ne'

end Dimensions

/-! ### Points and boxes -/

-- Where a matrix takes a point to.
def Matrix.apply (m : Matrix ℚ) (p : Position ℚ) : Position ℚ :=
  ⟨m.a * p.x + m.c * p.y + m.e, m.b * p.x + m.d * p.y + m.f⟩

namespace Pdf.PageBox

def center (b : PageBox ℚ) : Position ℚ :=
  ⟨(b.x₀ + b.x₁) / 2, (b.y₀ + b.y₁) / 2⟩

structure Contains (b : PageBox ℚ) (p : Position ℚ) : Prop where
  left   : b.x₀ ≤ p.x
  right  : p.x ≤ b.x₁
  bottom : b.y₀ ≤ p.y
  top    : p.y ≤ b.y₁

structure Proper (b : PageBox ℚ) : Prop where
  width  : b.x₀ < b.x₁
  height : b.y₀ < b.y₁

variable {b : PageBox ℚ} {size : Dimensions ℚ}

theorem Proper.positive (h : b.Proper) : b.dimensions.Positive where
  width  := sub_pos.2 h.width
  height := sub_pos.2 h.height

theorem proper_ofDimensions (h : size.Positive) : (ofDimensions size).Proper where
  width  := h.width
  height := h.height

theorem dimensions_ofDimensions (size : Dimensions ℚ) : (ofDimensions size).dimensions = size := by
  simp only [dimensions, ofDimensions, zero_exact, sub_zero]

end Pdf.PageBox

-- One factor on both axes, neither turned nor sheared.
structure Scales (f : Position ℚ → Position ℚ) (k : ℚ) : Prop where
  pos : 0 < k
  x   : ∀ p q, (f q).x - (f p).x = k * (q.x - p.x)
  y   : ∀ p q, (f q).y - (f p).y = k * (q.y - p.y)

-- A box is placed inside another one as large as it fits, and in its middle.
structure FitsInto (f : Position ℚ → Position ℚ) (source target : PageBox ℚ) : Prop where
  scales  : Scales f (source.dimensions.scaleToFit target.dimensions)
  inside  : ∀ p, source.Contains p → target.Contains (f p)
  center  : f source.center = target.center
  edges   : (f ⟨source.x₀, source.y₀⟩).x = target.x₀ ∧ (f ⟨source.x₁, source.y₁⟩).x = target.x₁ ∨
            (f ⟨source.x₀, source.y₀⟩).y = target.y₀ ∧ (f ⟨source.x₁, source.y₁⟩).y = target.y₁
  largest : ∀ g k, Scales g k → (∀ p, source.Contains p → target.Contains (g p)) →
              k ≤ source.dimensions.scaleToFit target.dimensions

namespace Scales

variable {f : Position ℚ → Position ℚ} {k : ℚ} {source target : PageBox ℚ}

-- What fits is scaled by the largest factor at most.
theorem le_scaleToFit (h : Scales f k) (hs : source.Proper)
    (hf : ∀ p, source.Contains p → target.Contains (f p)) :
    k ≤ source.dimensions.scaleToFit target.dimensions := by
  have hlow := hf ⟨source.x₀, source.y₀⟩ ⟨le_rfl, hs.width.le, le_rfl, hs.height.le⟩
  have hhigh := hf ⟨source.x₁, source.y₁⟩ ⟨hs.width.le, le_rfl, hs.height.le, le_rfl⟩
  have hx := h.x ⟨source.x₀, source.y₀⟩ ⟨source.x₁, source.y₁⟩
  have hy := h.y ⟨source.x₀, source.y₀⟩ ⟨source.x₁, source.y₁⟩
  rw [Dimensions.le_scaleToFit_iff hs.positive]
  simp only [PageBox.dimensions]
  constructor
  · linarith [hlow.left, hhigh.right]
  · linarith [hlow.bottom, hhigh.top]

-- With the largest factor and one centre for both, a box fits.
theorem fitsInto (h : Scales f (source.dimensions.scaleToFit target.dimensions))
    (hs : source.Proper) (hc : f source.center = target.center) : FitsInto f source target := by
  have ⟨hw, hh⟩ := (Dimensions.le_scaleToFit_iff hs.positive target.dimensions).1 le_rfl
  have he := Dimensions.scaleToFit_mul_eq hs.positive target.dimensions
  refine ⟨h, fun p hp => ?inside, hc, ?edges, fun g k hg hin => hg.le_scaleToFit hs hin⟩
  all_goals
    obtain ⟨hpos, hx, hy⟩ := h
    generalize source.dimensions.scaleToFit target.dimensions = k at hpos hx hy hw hh he
    replace hx := fun p => hx source.center p
    replace hy := fun p => hy source.center p
    rw [hc] at hx hy
    simp only [PageBox.center, PageBox.dimensions, sub_eq_iff_eq_add] at hx hy hw hh he
  case inside =>
    have := mul_le_mul_of_nonneg_left hp.left hpos.le
    have := mul_le_mul_of_nonneg_left hp.right hpos.le
    have := mul_le_mul_of_nonneg_left hp.bottom hpos.le
    have := mul_le_mul_of_nonneg_left hp.top hpos.le
    constructor <;> simp only [hx, hy] <;> linarith
  case edges =>
    refine he.imp (fun he => ?_) (fun he => ?_) <;> simp only [hx, hy] <;> constructor <;> linarith

end Scales

/-! ### Pages of other files -/

namespace Pdf

-- The number that an object stands for.
inductive Denotes : Object ℚ → ℚ → Prop
  | integer (i : Int) : Denotes (.integer i) i
  | real (x : ℚ) : Denotes (.real x) x

-- The matrix that a figure brings along.
def HasMatrix (figure : Stream ℚ) (m : Matrix ℚ) : Prop :=
  ∃ items, figure.entries.get? "Matrix" = some (.array items) ∧
    List.Forall₂ Denotes items m.entries

end Pdf

namespace Placement

-- Moves the lower left corner of a box to the origin.
def toOrigin (box : PageBox ℚ) : Matrix ℚ :=
  ⟨1, 0, 0, 1, -box.x₀, -box.y₀⟩

-- Where a point of a figure goes that has a matrix of its own.
def placed (own matrix : Matrix ℚ) (p : Position ℚ) : Position ℚ :=
  matrix.apply (own.apply p)

variable {box : PageBox ℚ} {size : Dimensions ℚ}

theorem fitsInto_fitCentered (hb : box.Proper) (hs : size.Positive) :
    FitsInto (placed (toOrigin box) (fitCentered box.dimensions size)) box
      (.ofDimensions size) := by
  refine Scales.fitsInto ⟨?pos, fun p q => ?x, fun p q => ?y⟩ hb ?center
  case pos =>
    rw [PageBox.dimensions_ofDimensions]
    exact Dimensions.scaleToFit_pos hb.positive hs
  case center =>
    simp only [placed, toOrigin, Matrix.apply, fitCentered, Matrix.place, Dimensions.centerIn,
      Dimensions.scaledBy, PageBox.center, PageBox.dimensions, PageBox.ofDimensions, zero_exact,
      two_exact, Position.mk.injEq]
    constructor <;> ring
  all_goals
    rw [PageBox.dimensions_ofDimensions]
    simp only [placed, toOrigin, Matrix.apply, fitCentered, Matrix.place, zero_exact]
    ring

end Placement

namespace Document

open Placement

variable {d : Document ℚ} {source s : Store ℚ} {page : ObjectId} {f : ObjectId → ObjectId}
  {box : PageBox ℚ} {figure : Stream ℚ} {own size : Dimensions ℚ} {sizes : List (Dimensions ℚ)}
  {l : Leaf ℚ}

theorem denotes_toOrigin (box : PageBox ℚ) :
    List.Forall₂ Denotes [.integer 1, .integer 0, .integer 0, .integer 1, .real (-box.x₀),
      .real (-box.y₀)] (toOrigin box).entries := by
  have hone : Denotes (.integer 1) 1 := mod_cast Denotes.integer 1
  have hzero : Denotes (.integer 0) 0 := mod_cast Denotes.integer 0
  exact .cons hone <| .cons hzero <| .cons hzero <| .cons hone <| .cons (.real _) <|
    .cons (.real _) .nil

theorem hasMatrix_form (source : Store ℚ) (page : ObjectId) (box : PageBox ℚ)
    (resources : Option (Object ℚ)) :
    HasMatrix (form source page box resources) (toOrigin box) := by
  refine ⟨_, ?_, denotes_toOrigin box⟩
  cases resources <;> rfl

theorem IsForm.hasMatrix (h : IsForm source f page box figure) :
    HasMatrix figure (toOrigin box) :=
  ⟨_, h.matrix, denotes_toOrigin box⟩

theorem positive_letter : Dimensions.letter.Positive where
  width  := by simp only [Dimensions.letter, ofInt]; norm_num
  height := by simp only [Dimensions.letter, ofInt]; norm_num

-- Only a box that spans a rectangle is used.
theorem ShownWith.proper (h : ShownWith source page box) : box.Proper := by
  obtain ⟨_, _, -, -, hv⟩ | ⟨-, rfl⟩ := h
  · simp only [Dimensions.isValid, Bool.and_eq_true, decide_eq_true_eq] at hv
    exact ⟨sub_pos.1 hv.1.2, sub_pos.1 hv.2⟩
  · exact PageBox.proper_ofDimensions positive_letter

-- A page that shows what is drawn on another one as large as it fits, and nothing else.
def ShowsFitted (source s : Store ℚ) (own size : Dimensions ℚ) (page : ObjectId) (l : Leaf ℚ) :
    Prop :=
  ∃ box figure m matrix, ShownWith source page box ∧ HasMatrix figure m ∧
    ShowsOnly s own figure matrix l ∧ FitsInto (placed m matrix) box (.ofDimensions size)

theorem Reproduces.showsFitted (h : Reproduces source s f own size page l) (hs : size.Positive) :
    ShowsFitted source s own size page l := by
  obtain ⟨-, box, figure, hb, hf, hl⟩ := h
  exact ⟨box, figure, _, _, hb, hf.hasMatrix, hl, fitsInto_fitCentered hb.proper hs⟩

-- Each page of an embedded file is placed as large as it fits.
theorem Built.showsFitted_embedPages (h : Built d sizes) (source : Store ℚ) (hs : size.Positive) :
    ∃ new, (d.embedPages source size).2.leaves =
        (d.writeLine (announcement source.pages.length)).leaves ++ new ∧
      List.Forall₂ (ShowsFitted source (d.embedPages source size).2.store d.layout.page size)
        source.pages new := by
  have hl := h.paged.extends_writeStyled .body (announcement source.pages.length)
  obtain ⟨new, hn, hf⟩ := hl.paged.reproduces_appendPages source size
  rw [embedPages_eq_appendPages]
  refine ⟨new, hn, hf.imp fun page l hr => ?_⟩
  rw [hl.layout] at hr
  exact hr.showsFitted hs

end Document

/-! ### Pictures -/

namespace Placement

-- The part of a page around its centre that takes up a share of both axes.
def share (page : Dimensions ℚ) (p : ℚ) : PageBox ℚ :=
  ⟨(page.width - p * page.width) / 2, (page.height - p * page.height) / 2,
    (page.width + p * page.width) / 2, (page.height + p * page.height) / 2⟩

-- Where a point of a picture goes, which is drawn as a square of side one.
def pictured (natural : Dimensions ℚ) (matrix : Matrix ℚ) (p : Position ℚ) : Position ℚ :=
  matrix.apply ⟨p.x / natural.width, p.y / natural.height⟩

-- A picture of a size at a position is undistorted, and takes up its share of the page.
structure Framed (natural page : Dimensions ℚ) (p : ℚ) (size : Dimensions ℚ)
    (position : Position ℚ) (matrix : Matrix ℚ) : Prop where
  ratio    : size.width * natural.height = size.height * natural.width
  within   : size.width ≤ p * page.width ∧ size.height ≤ p * page.height
  touching : size.width = p * page.width ∨ size.height = p * page.height
  centered : position.x + size.width / 2 = page.width / 2 ∧
               position.y + size.height / 2 = page.height / 2
  corners  : pictured natural matrix ⟨0, 0⟩ = position ∧
               pictured natural matrix ⟨natural.width, natural.height⟩ =
                 ⟨position.x + size.width, position.y + size.height⟩
  fits     : FitsInto (pictured natural matrix) (.ofDimensions natural) (share page p)
  inside   : ∀ q, (PageBox.ofDimensions natural).Contains q →
               (PageBox.ofDimensions page).Contains (pictured natural matrix q)

variable {natural page : Dimensions ℚ} {p : ℚ}

theorem dimensions_share (page : Dimensions ℚ) (p : ℚ) :
    (share page p).dimensions = page.scaledBy p := by
  simp only [PageBox.dimensions, share, Dimensions.scaledBy, Dimensions.mk.injEq]
  constructor <;> ring

theorem fitsInto_picture (hn : natural.Positive) (hs : page.Positive) (hp : 0 < p) :
    FitsInto (pictured natural (picture natural page p)) (.ofDimensions natural)
      (share page p) := by
  have hw := hn.width.ne'
  have hh := hn.height.ne'
  refine Scales.fitsInto ⟨?pos, fun p q => ?x, fun p q => ?y⟩ (PageBox.proper_ofDimensions hn)
    ?center
  case pos =>
    rw [PageBox.dimensions_ofDimensions, dimensions_share]
    exact Dimensions.scaleToFit_pos hn (hs.scaledBy hp)
  case center =>
    simp only [pictured, Matrix.apply, picture, picturePosition, pictureSize, Matrix.place,
      Dimensions.centerIn, Dimensions.scaledBy, PageBox.center, share, PageBox.ofDimensions,
      zero_exact, two_exact, Position.mk.injEq]
    constructor <;> field_simp <;> ring
  all_goals
    rw [PageBox.dimensions_ofDimensions, dimensions_share]
    simp only [pictured, Matrix.apply, picture, pictureSize, Dimensions.scaledBy, Matrix.place,
      zero_exact]
    field_simp
    ring

-- A share of at most the whole page lies on the page.
theorem contains_of_share (hs : page.Positive) (hle : p ≤ 1) {q : Position ℚ}
    (h : (share page p).Contains q) : (PageBox.ofDimensions page).Contains q := by
  have hw : p * page.width ≤ page.width := mul_le_of_le_one_left hs.width.le hle
  have hh : p * page.height ≤ page.height := mul_le_of_le_one_left hs.height.le hle
  obtain ⟨hleft, hright, hbottom, htop⟩ := h
  simp only [share] at hleft hright hbottom htop
  constructor <;> simp only [PageBox.ofDimensions, zero_exact] <;> linarith

theorem framed_picture (hn : natural.Positive) (hs : page.Positive) (hp : 0 < p) (hle : p ≤ 1) :
    Framed natural page p (pictureSize natural page p) (picturePosition natural page p)
      (picture natural page p) := by
  have hfits := fitsInto_picture hn hs hp
  have ⟨hw, hh⟩ := (Dimensions.le_scaleToFit_iff hn (page.scaledBy p)).1 le_rfl
  have he := Dimensions.scaleToFit_mul_eq hn (page.scaledBy p)
  refine ⟨?ratio, ?within, ?touching, ?centered, ?corners, hfits, fun q hq => ?inside⟩
  case ratio =>
    simp only [pictureSize, Dimensions.scaledBy]
    ring
  case within =>
    rw [pictureSize]
    generalize natural.scaleToFit (page.scaledBy p) = k at hw hh ⊢
    simp only [Dimensions.scaledBy] at hw hh ⊢
    constructor <;> linarith
  case touching =>
    rw [pictureSize]
    generalize natural.scaleToFit (page.scaledBy p) = k at he ⊢
    simp only [Dimensions.scaledBy] at he ⊢
    exact he.imp (fun he => by linarith) (fun he => by linarith)
  case centered =>
    simp only [picturePosition, Dimensions.centerIn, two_exact]
    constructor <;> ring
  case corners =>
    simp only [pictured, Matrix.apply, picture, Matrix.place, zero_exact, zero_div,
      div_self hn.width.ne', div_self hn.height.ne']
    constructor
    · simp
    · simp [add_comm]
  case inside => exact contains_of_share hs hle (hfits.inside q hq)

-- A page of another file fits onto the page it is placed on, wherever its box lies, and a picture
-- fits into the share of the page that it may take up.
theorem fitsInto_and_framed (hb : box.Proper) (hn : natural.Positive) (hs : page.Positive)
    (hp : 0 < p) (hle : p ≤ 1) :
    (∀ source id resources, ∃ own,
      HasMatrix (Document.form source id box resources) own ∧
        FitsInto (placed own (fitCentered box.dimensions page)) box (.ofDimensions page)) ∧
      Framed natural page p (pictureSize natural page p) (picturePosition natural page p)
        (picture natural page p) :=
  ⟨fun source id resources => ⟨toOrigin box, Document.hasMatrix_form source id box resources,
    fitsInto_fitCentered hb hs⟩, framed_picture hn hs hp hle⟩

-- A letter page whose corner is not the origin, and a picture, on an A4 page.
theorem fitsInto_and_framed_a4 :
    let box : PageBox ℚ := ⟨100, 200, 712, 992⟩
    let natural : Dimensions ℚ := ⟨4000, 3000⟩
    let page : Dimensions ℚ := ⟨595, 842⟩
    (box.Proper ∧ natural.Positive ∧ page.Positive ∧ (0 : ℚ) < 3 / 4 ∧ (3 / 4 : ℚ) ≤ 1) ∧
      (∀ source id resources, ∃ own,
        HasMatrix (Document.form source id box resources) own ∧
          FitsInto (placed own (fitCentered box.dimensions page)) box (.ofDimensions page)) ∧
        Framed natural page (3 / 4) (pictureSize natural page (3 / 4))
          (picturePosition natural page (3 / 4)) (picture natural page (3 / 4)) := by
  intro box natural page
  have hb : box.Proper := by constructor <;> norm_num [box]
  have hn : natural.Positive := by constructor <;> norm_num [natural]
  have hs : page.Positive := by constructor <;> norm_num [page]
  have hp : (0 : ℚ) < 3 / 4 := by norm_num
  have hle : (3 / 4 : ℚ) ≤ 1 := by norm_num
  exact ⟨⟨hb, hn, hs, hp, hle⟩, fitsInto_and_framed hb hn hs hp hle⟩

end Placement

-- A picture that is drawn is framed by its matrix.
theorem Document.framed_drawPicture (d : Document ℚ) {r : Picture.Raster} {page : Dimensions ℚ}
    {p : ℚ} (hw : 0 < r.width) (hh : 0 < r.height) (hs : page.Positive) (hp : 0 < p) (hle : p ≤ 1) :
    ∃ name size position matrix, (d.drawPicture r page p).page.marks =
      d.page.marks ++ [.figure name matrix] ∧
        Placement.Framed ⟨r.width, r.height⟩ page p size position matrix := by
  obtain ⟨name, hm⟩ := d.marks_drawPicture r page p
  have hn : Dimensions.Positive ⟨r.width, r.height⟩ := ⟨Nat.cast_pos.2 hw, Nat.cast_pos.2 hh⟩
  exact ⟨name, _, _, _, hm, Placement.framed_picture hn hs hp hle⟩

end AccessReport
