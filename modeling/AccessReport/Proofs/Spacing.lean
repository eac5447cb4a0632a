import AccessReport.Proofs.Exact
import AccessReport.Proofs.Filling
import Mathlib.Tactic.Linarith

namespace AccessReport

open Coordinate Pdf

namespace Options

-- Fonts have a size, and a line is at least as high as its font.
structure Regular (o : Options ℚ) : Prop where
  size    : ∀ style, 0 < o.size style
  spacing : 1 ≤ o.lineSpacing

variable {o : Options ℚ}

theorem Regular.size_le (h : o.Regular) (style : Style) : o.size style ≤ o.lineHeight style :=
  le_mul_of_one_le_right (h.size style).le h.spacing

theorem Regular.lineHeight_pos (h : o.Regular) (style : Style) : 0 < o.lineHeight style :=
  (h.size style).trans_le (h.size_le style)

-- The default layout, as fractions.
def exact : Options ℚ :=
  .ofDate ⟨2024, 2, 29, by decide⟩

theorem regular_exact : exact.Regular where
  size    := by
    intro style
    cases style <;> decide +kernel
  spacing := by decide +kernel

end Options

namespace Placing

-- The height that later text keeps below.
def bottom? : Placing ℚ → Option ℚ
  | line _ _ y _ _ => some y
  | figure _ _ bottom => bottom

-- What comes later does not print over what is there.
def Clears (o : Options ℚ) (p : Placing ℚ) : Placing ℚ → Prop
  | line style _ y _ _ => ∀ bottom ∈ p.bottom?, y + o.size style ≤ bottom
  | figure .. => True

end Placing

namespace Filling

-- Nothing on a page is printed over, and the next line hangs below everything unless nothing more
-- goes on the page.
structure Spaced (c : Filling ℚ) (cursor : ℚ) : Prop where
  apart : c.placings.Pairwise (Placing.Clears c.layout)
  below : (∀ p ∈ c.placings, ∀ bottom ∈ p.bottom?, cursor ≤ bottom) ∨
            (c.placings ≠ [] ∧ cursor ≤ c.layout.margin)

variable {c : Filling ℚ} {p : Placing ℚ} {cursor cursor' : ℚ}

namespace Spaced

theorem blank (layout : Options ℚ) (cursor : ℚ) : (Filling.blank layout).Spaced cursor where
  apart := .nil
  below := .inl <| by simp [Filling.blank]

-- Where nothing comes that is lower than the next line, the next line may hang lower.
theorem put (h : c.Spaced cursor) (hp : ∀ q ∈ c.placings, q.Clears c.layout p)
    (hc : cursor' ≤ cursor) (hb : ∀ bottom ∈ p.bottom?, cursor' ≤ bottom) :
    (c.put p).Spaced cursor' where
  apart := by
    refine List.pairwise_append.2 ⟨h.apart, List.pairwise_singleton .., ?_⟩
    intro q hq _ hp'
    rw [List.mem_singleton.1 hp']
    exact hp q hq
  below := by
    refine h.below.imp (fun hbelow => ?_) fun hfull => ⟨by simp [Filling.put], hc.trans hfull.2⟩
    intro q hq bottom hbottom
    rcases List.mem_append.1 hq with hq | hq
    · exact hc.trans <| hbelow q hq bottom hbottom
    · rw [List.mem_singleton.1 hq] at hbottom
      exact hb bottom hbottom

-- A line goes on a page that has nothing on it, or room for the line.
theorem line (h : c.Spaced cursor) (ho : c.layout.Regular) {style : Style} {x : ℚ}
    {text : List Char} {beside : List (ℚ × List Char)}
    (hroom : c.placings = [] ∨ c.layout.margin ≤ cursor - c.layout.lineHeight style) :
    (c.put (.line style x (cursor - c.layout.size style) text beside)).Spaced
      (cursor - c.layout.lineHeight style) := by
  have hpos := ho.lineHeight_pos style
  have hle := ho.size_le style
  have hbelow : ∀ p ∈ c.placings, ∀ bottom ∈ p.bottom?, cursor ≤ bottom := by
    rcases hroom with hempty | hroom
    · simp [hempty]
    · refine h.below.resolve_right fun hfull => ?_
      linarith [hfull.2]
  refine h.put (fun p hp bottom hbottom => ?_) (by linarith) fun bottom hbottom => ?_
  · linarith [hbelow p hp bottom hbottom]
  · cases hbottom
    linarith

-- Space pushes the next line down, but not below the margin; there nothing more goes on the page.
theorem leave (h : c.Spaced cursor) (ho : c.layout.Regular) {lines : ℚ} (hl : 0 ≤ lines) :
    (c.leave lines).Spaced
      (max (cursor - c.layout.lineHeight .body * lines) c.layout.margin) := by
  unfold Filling.leave
  split
  case isTrue he =>
    rw [List.isEmpty_iff.1 he]
    exact ⟨.nil, .inl <| by simp⟩
  case isFalse he =>
    refine ⟨h.apart, ?_⟩
    have hne : c.placings ≠ [] := fun hn => he <| by simp [hn]
    have hstep := mul_nonneg (ho.lineHeight_pos .body).le hl
    rcases le_total (cursor - c.layout.lineHeight .body * lines) c.layout.margin with hc | hc
    · exact .inr ⟨hne, (max_eq_right hc).le⟩
    · rw [max_eq_left hc]
      refine h.below.imp (fun hb p hp bottom hbottom => ?_) fun hfull => ⟨hne, ?_⟩
      · linarith [hb p hp bottom hbottom]
      · linarith [hfull.2]

theorem figure (h : c.Spaced cursor) (ho : c.layout.Regular) (name : String) (matrix : Matrix ℚ)
    (bottom : ℚ) : (c.put (.figure name matrix (some bottom))).Spaced
      (min cursor (bottom - c.layout.lineHeight .body)) := by
  have hpos := ho.lineHeight_pos .body
  refine h.put (fun _ _ => trivial) (min_le_left ..) fun b hb => ?_
  cases hb
  have := min_le_right cursor (bottom - c.layout.lineHeight .body)
  linarith

end Spaced
end Filling

namespace Document

variable {d : Document ℚ} {l : Fillings ℚ}

theorem Laid.spaced (h : Laid d l) :
    Laid.Holds (fun c cursor => c.layout.Regular → c.Spaced cursor) d l := by
  refine h.page_induction ?blank ?line ?space ?figure ?figurePage
  case blank => exact fun o _ => .blank o o.top
  case line =>
    intro c cursor style x text beside hc hroom ho
    exact (hc ho).line ho <| hroom.imp_right not_lt.1
  case space =>
    intro c cursor lines hc hn ho
    rw [Filling.layout_leave] at ho
    rw [larger_exact]
    exact (hc ho).leave ho hn
  case figure =>
    intro c cursor name matrix bottom hc ho
    rw [smaller_exact]
    exact (hc ho).figure ho name matrix bottom
  case figurePage =>
    intro o name matrix _
    exact (Filling.Spaced.blank o o.top).put (fun _ _ => trivial) le_rfl (by simp [Placing.bottom?])

-- However a document comes about, no line on its pages is printed over a line or a drawing that was
-- there before.
theorem lines_clear (h : Laid d l) :
    List.Forall₂ Filling.Fills l.all d.leaves ∧
      (∀ c ∈ l.all, c.layout.Regular → c.placings.Pairwise (Placing.Clears c.layout)) ∧
      ∀ e, d.Edit e → (∃ l', Laid e l') ∨ ∃ lines : ℚ, ¬0 ≤ lines ∧ e = d.addSpace lines := by
  refine ⟨h.told.all, fun c hc ho => ?_, fun e he => h.edit he⟩
  obtain ⟨cursor, hs⟩ := h.spaced.all c hc
  exact (hs ho).apart

-- A heading over a drawing, and a line of text below both.
def notice (layout : Options ℚ) : Document ℚ :=
  let d := (empty layout).placeBeside .heading layout.margin "Room (3)".toList []
  let d := d.drawFigure ⟨5, 0⟩ ⟨1, 0, 0, 1, 0, 0⟩ 400
  (d.addSpace 1).placeBeside .body layout.margin "Floor plan".toList []

theorem lines_clear_notice :
    ∃ l, Laid (notice Options.exact) l ∧ Options.exact.Regular ∧
    l.all.map Filling.placings = [[
      .line .heading 50 778 "Room (3)".toList [],
      .figure "X1" ⟨1, 0, 0, 1, 0, 0⟩ (some 400),
      .line .body 50 362 "Floor plan".toList []]] ∧
    List.Forall₂ Filling.Fills l.all (notice Options.exact).leaves ∧
    (∀ c ∈ l.all, c.layout.Regular → c.placings.Pairwise (Placing.Clears c.layout)) ∧
    ∀ e, (notice Options.exact).Edit e → (∃ l', Laid e l') ∨
      ∃ lines : ℚ, ¬0 ≤ lines ∧ e = (notice Options.exact).addSpace lines := by
  have hone : (zero : ℚ) ≤ 1 := by decide +kernel
  have h := (Laid.empty Options.exact).line .heading Options.exact.margin "Room (3)".toList []
  have h := (h.drawFigure ⟨5, 0⟩ ⟨1, 0, 0, 1, 0, 0⟩ 400).space hone
  have h := h.line .body Options.exact.margin "Floor plan".toList []
  exact ⟨_, h, Options.regular_exact, by decide +kernel, lines_clear h⟩

end Document
end AccessReport
