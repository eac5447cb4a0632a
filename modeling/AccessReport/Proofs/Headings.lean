import AccessReport.Proofs.Baselines
import AccessReport.Proofs.Items

namespace AccessReport

open Coordinate Pdf

namespace Options

variable {o : Options ℚ} {style : Style} {n : Nat}

-- How many lines of a style a page holds, at least one.
def linesPerPage (o : Options ℚ) (style : Style) : Nat :=
  max 1 ⌊o.textHeight / o.lineHeight style⌋₊

-- How many of some lines are on the last of the pages that they fill.
def linesOnLast (o : Options ℚ) (style : Style) (n : Nat) : Nat :=
  (n - 1) % o.linesPerPage style + 1

theorem linesOnLast_le (hn : 0 < n) : o.linesOnLast style n ≤ n := by
  have := Nat.mod_le (n - 1) (o.linesPerPage style)
  unfold linesOnLast
  omega

theorem linesOnLast_succ (hn : 0 < n) : o.linesOnLast style (n + 1) =
    if o.linesOnLast style n < o.linesPerPage style then o.linesOnLast style n + 1 else 1 := by
  obtain ⟨n, rfl⟩ := Nat.exists_eq_add_one.2 hn
  have hpos : 0 < o.linesPerPage style := lt_max_of_lt_left Nat.one_pos
  have hlt := Nat.mod_lt n hpos
  simp only [linesOnLast, Nat.add_sub_cancel]
  by_cases hroom : n % o.linesPerPage style + 1 < o.linesPerPage style
  · have hone : 1 < o.linesPerPage style := by omega
    rw [if_pos hroom, Nat.add_mod, Nat.mod_eq_of_lt hone, Nat.mod_eq_of_lt hroom]
  · have hdvd : o.linesPerPage style ∣ n + 1 := by
      refine ⟨n / o.linesPerPage style + 1, ?_⟩
      have := Nat.div_add_mod n (o.linesPerPage style)
      rw [Nat.mul_add]
      omega
    rw [if_neg hroom, Nat.mod_eq_zero_of_dvd hdvd]

theorem linesOnLast_pos : 0 < o.linesOnLast style n :=
  Nat.succ_pos _

-- The lines on the last of the pages that some lines fill.
def lastLines (o : Options ℚ) (style : Style) (lines : List (List Char)) : List (List Char) :=
  lines.drop (lines.length - o.linesOnLast style lines.length)

theorem length_lastLines {lines : List (List Char)} (h : lines ≠ []) :
    (o.lastLines style lines).length = o.linesOnLast style lines.length := by
  have hle : o.linesOnLast style lines.length ≤ lines.length :=
    linesOnLast_le <| List.length_pos_iff.2 h
  rw [lastLines, List.length_drop]
  omega

theorem lastLines_concat {lines : List (List Char)} (h : lines ≠ []) (line : List Char) :
    o.lastLines style (lines ++ [line]) =
      if o.linesOnLast style lines.length < o.linesPerPage style then
        o.lastLines style lines ++ [line]
      else [line] := by
  unfold lastLines
  rw [List.length_append, List.length_singleton, linesOnLast_succ (List.length_pos_iff.2 h)]
  split
  · rw [Nat.add_sub_add_right, List.drop_append_of_le_length (Nat.sub_le ..)]
  · rw [Nat.add_sub_cancel, List.drop_left]

-- A page holds one line more as long as the line fits.
theorem lt_linesPerPage_iff (h : 0 < o.lineHeight style) (hn : 0 < n) :
    n < o.linesPerPage style ↔ (n + 1) * o.lineHeight style ≤ o.textHeight := by
  rw [← le_div_iff₀ h, ← Nat.cast_add_one, ← Nat.le_floor_iff' (Nat.succ_ne_zero n)]
  unfold linesPerPage
  omega

end Options

namespace Document

variable {d : Document ℚ} {style : Style} {line : List Char} {lines : List (List Char)}

-- Lines one below the other from the top of a page.
def stack (o : Options ℚ) (style : Style) (lines : List (List Char)) : List (Mark ℚ) :=
  lines.zipIdx.map fun t =>
    lineMark o style o.margin (o.top - t.2 * o.lineHeight style - o.size style) t.1

theorem stack_append (o : Options ℚ) : stack o style (lines ++ [line]) =
    stack o style lines ++ [lineMark o style o.margin
      (o.top - lines.length * o.lineHeight style - o.size style) line] := by
  simp [stack, List.zipIdx_append]

theorem stack_ne_nil (o : Options ℚ) (h : lines ≠ []) : stack o style lines ≠ [] := by
  simpa [stack] using h

theorem placeLines_concat (x : Options ℚ → List Char → ℚ) :
    d.placeLines style x (lines ++ [line]) =
      let e := d.placeLines style x lines
      (e.placeLine style (x e.layout line) line).1 := by
  simp [placeLines, List.foldl_append]

-- Nothing is on the open page but lines of one style.
structure Stacked (d : Document ℚ) (style : Style) (lines : List (List Char)) : Prop where
  marks  : d.page.marks = stack d.layout style lines
  cursor : d.page.cursor = d.layout.top - lines.length * d.layout.lineHeight style

namespace Stacked

theorem isFull_iff (h : d.Stacked style lines) (hne : lines ≠ []) : d.isFull style = true ↔
    d.layout.textHeight < (lines.length + 1) * d.layout.lineHeight style := by
  have hm := h.marks
  have hc := h.cursor
  cases hp : d.current with
  | none =>
    rw [page, hp] at hm
    exact absurd hm.symm <| stack_ne_nil _ hne
  | some p =>
    simp only [page, hp, Option.getD_some] at hm hc
    simp only [isFull, hp, Option.any_some, hm, hc,
      List.isEmpty_eq_false_iff.2 (stack_ne_nil _ hne), Bool.not_false, Bool.true_and,
      decide_eq_true_eq, Options.top, Options.textHeight]
    constructor <;> intro hlt <;> linarith

-- Onto a page that is not full.
theorem add (h : d.Stacked style lines) (hf : d.isFull style = false) (line : List Char) :
    (d.placeLine style d.layout.margin line).1.Stacked style (lines ++ [line]) := by
  have ht : d.turned style = d := by
    rw [turned, hf]
    rfl
  rw [placeLine_eq, ht]
  refine ⟨?_, ?_⟩
  · change d.page.marks ++ _ = stack d.layout style (lines ++ [line])
    rw [stack_append, h.marks, h.cursor]
  · change d.page.cursor - _ = d.layout.top - (lines ++ [line]).length * d.layout.lineHeight style
    rw [h.cursor, List.length_append, List.length_singleton]
    push_cast
    ring

theorem blank (h : d.Blank) : d.Stacked style [] where
  marks  := h.marks
  cursor := by simpa using h.cursor

-- Onto the page after a full one.
theorem turn (hf : d.isFull style = true) (line : List Char) :
    (d.placeLine style d.layout.margin line).1.Stacked style [line] := by
  have ht : d.turned style = d.closePage := by
    rw [turned, hf]
    rfl
  have hb : d.closePage.Blank := blank_closePage
  have hn : d.closePage.isFull style = false := isFull_of_marks hb.marks
  have he : d.placeLine style d.layout.margin line =
      d.closePage.placeLine style d.closePage.layout.margin line := by
    rw [placeLine_eq, placeLine_eq, ht, turned, hn, layout_closePage]
    rfl
  rw [he]
  exact (blank hb).add hn line

-- Of lines that fill several pages the last ones are on the open page.
theorem placeLines (hb : d.Blank)
    (hpos : 0 < d.layout.lineHeight style) (hne : lines ≠ []) :
    (d.placeLines style (fun o _ => o.margin) lines).Stacked style
      (d.layout.lastLines style lines) := by
  induction lines using List.reverseRecOn with
  | nil => exact absurd rfl hne
  | append_singleton lines line ih =>
    rw [placeLines_concat]
    rcases eq_or_ne lines [] with rfl | hlines
    · exact (blank hb).add (isFull_of_marks hb.marks) line
    · have hs := ih hlines
      have hlength : (d.layout.lastLines style lines).length =
          d.layout.linesOnLast style lines.length := Options.length_lastLines hlines
      have hfull := hs.isFull_iff <| List.ne_nil_of_length_pos (hlength ▸ Options.linesOnLast_pos)
      rw [hlength, layout_placeLines, ← not_le,
        ← Options.lt_linesPerPage_iff hpos Options.linesOnLast_pos] at hfull
      rw [Options.lastLines_concat hlines]
      split
      case isTrue hlt => exact hs.add (Bool.eq_false_iff.2 fun h => hfull.1 h hlt) line
      case isFalse hlt => exact turn (hfull.2 hlt) line

end Stacked

theorem mem_stack {o : Options ℚ} {m : Mark ℚ} : m ∈ stack o style lines ↔
    ∃ (i : Nat) (line : List Char), lines[i]? = some line ∧
      m = lineMark o style o.margin (o.top - i * o.lineHeight style - o.size style) line := by
  simp only [stack, List.mem_map, List.mem_zipIdx_iff_getElem?, Prod.exists]
  constructor
  · rintro ⟨line, i, hi, rfl⟩
    exact ⟨i, line, hi, rfl⟩
  · rintro ⟨i, line, hi, rfl⟩
    exact ⟨line, i, hi, rfl⟩

end Document

-- All that is drawn, a square of side one, is at a height or below it.
def Matrix.Below (m : Matrix ℚ) (y : ℚ) : Prop :=
  ∀ s t, 0 ≤ s → s ≤ 1 → 0 ≤ t → t ≤ 1 → m.b * s + m.d * t + m.f ≤ y

namespace Placement

variable {natural page : Dimensions ℚ} {proportion y : ℚ}

-- A picture has as much of the page above it as below it.
theorem below_picture_iff : (picture natural page proportion).Below y ↔
    page.height - y ≤ (page.height - |(pictureSize natural page proportion).height|) / 2 := by
  have hm : (picture natural page proportion).Below y ↔ ∀ s t : ℚ, 0 ≤ s → s ≤ 1 → 0 ≤ t → t ≤ 1 →
      0 * s + (pictureSize natural page proportion).height * t +
        (page.height - (pictureSize natural page proportion).height) / 2 ≤ y := Iff.rfl
  rw [hm]
  generalize (pictureSize natural page proportion).height = h
  constructor
  · intro hall
    rcases abs_cases h with ⟨ha, -⟩ | ⟨ha, -⟩
    · have := hall 0 1 le_rfl zero_le_one zero_le_one le_rfl
      linarith
    · have := hall 0 0 le_rfl zero_le_one le_rfl zero_le_one
      linarith
  · intro hy s t _ _ ht ht'
    have hle : h * t ≤ (h + |h|) / 2 := by
      rcases abs_cases h with ⟨ha, hsign⟩ | ⟨ha, hsign⟩
      · have := mul_le_of_le_one_right hsign ht'
        linarith
      · have := mul_nonpos_of_nonpos_of_nonneg hsign.le ht
        linarith
    linarith

end Placement

namespace Document

variable {style : Style} {lines : List (List Char)}

-- Whether something is below lines depends on the last one.
theorem below_stack_iff {o : Options ℚ} {m : Matrix ℚ} (hpos : 0 < o.lineHeight style)
    (hne : lines ≠ []) :
    (∀ font size x y codes, .text font size x y codes ∈ stack o style lines → m.Below y) ↔
      m.Below (o.top - (lines.length - 1 : Nat) * o.lineHeight style - o.size style) := by
  have hlength := List.length_pos_iff.2 hne
  constructor
  · intro h
    refine h _ _ _ _ _ <| mem_stack.2 ⟨lines.length - 1, lines.getLast hne, ?_, rfl⟩
    rw [← List.getLast?_eq_getElem?, List.getLast?_eq_some_getLast hne]
  · intro h font size x y codes hm s t hs hs' ht ht'
    obtain ⟨i, line, hi, hl⟩ := mem_stack.1 hm
    cases hl
    have hlt := (List.getElem?_eq_some_iff.1 hi).1
    have hstep : (i : ℚ) * o.lineHeight style ≤ (lines.length - 1 : Nat) * o.lineHeight style := by
      refine mul_le_mul_of_nonneg_right ?_ hpos.le
      exact_mod_cast Nat.le_sub_one_of_lt hlt
    linarith [h s t hs hs' ht ht']

-- A picture is below lines if the page above it has room for them.
theorem below_lines_iff {o : Options ℚ} {natural : Dimensions ℚ} {proportion : ℚ} {name : String}
    (hpos : 0 < o.lineHeight style) (hne : lines ≠ []) :
    let picture := Placement.picture natural o.page proportion
    (∀ font size x y codes,
      .text font size x y codes ∈ stack o style lines ++ [.figure name picture] →
      picture.Below y) ↔
    o.margin + (lines.length - 1 : Nat) * o.lineHeight style + o.size style ≤
      (o.page.height - |(Placement.pictureSize natural o.page proportion).height|) / 2 := by
  intro picture
  have htext (font : String) (size x y : ℚ) (codes : Bytes) :
      .text font size x y codes ∈ stack o style lines ++ [.figure name picture] ↔
        .text font size x y codes ∈ stack o style lines := by
    simp
  have hheight : o.page.height - (o.top - (lines.length - 1 : Nat) * o.lineHeight style -
      o.size style) = o.margin + (lines.length - 1 : Nat) * o.lineHeight style + o.size style := by
    unfold Options.top
    ring
  simp only [htext]
  rw [below_stack_iff hpos hne, Placement.below_picture_iff, hheight]

section Picture

variable {d : Document ℚ}

theorem current_addPicture (p : Picture.Raster) : (d.addPicture p).2.current = d.current := by
  unfold addPicture
  cases p.alpha <;> rfl

theorem layout_addPicture (p : Picture.Raster) : (d.addPicture p).2.layout = d.layout := by
  unfold addPicture
  cases p.alpha <;> rfl

theorem marks_drawPicture (p : Picture.Raster) (page : Dimensions ℚ) (proportion : ℚ) :
    ∃ name, (d.drawPicture p page proportion).page.marks =
      d.page.marks ++ [.figure name (Placement.picture ⟨p.width, p.height⟩ page proportion)] := by
  have hpage : (d.addPicture p).2.page = d.page := by
    rw [Document.page, Document.page, current_addPicture, layout_addPicture]
  refine ⟨figureName ((d.addPicture p).2.figureCount + 1), ?_⟩
  rw [← hpage]
  rfl

end Picture

end Document

namespace Assembler

variable {σ : Type} {a : Assembler (StateM σ) ℚ} {x : Attachment (StateM σ)}
  {d : Document ℚ} {w w' : σ} {bytes : Bytes} {p : Picture.Raster}

-- The page of a picture shows the last lines of the heading of its attachment, and the picture. The
-- picture is below all of them if the page above it has room for them.
theorem picture_below_heading (service : String) (hd : a.Ready d)
    (hpos : 0 < a.options.lineHeight .heading) (hn : 0 < x.info.number)
    (hread : (x.read.run w).run = (.ok bytes, w'))
    (hr : a.renderers.resolve x.info.contentType = .image)
    (hp : Picture.decode bytes = .ok p) (hw : 0 < p.width) (hh : 0 < p.height) :
    let o := a.options
    let shown := o.lastLines .heading (o.lines .heading x.info.heading.toList)
    let natural : Dimensions ℚ := ⟨p.width, p.height⟩
    let size := Placement.pictureSize natural o.page o.imageProportion
    let picture := Placement.picture natural o.page o.imageProportion
    ∃ e name, Yields (a.renderAttachment service d x) w e w' ∧
      e.page.marks = Document.stack o .heading shown ++ [.figure name picture] ∧
      ((∀ font size x y codes, .text font size x y codes ∈ e.page.marks → picture.Below y) ↔
        o.margin + (shown.length - 1 : Nat) * o.lineHeight .heading + o.size .heading ≤
          (o.page.height - |size.height|) / 2) := by
  intro o shown natural size picture
  have hl : d.startNewPage.layout = o := Document.layout_startNewPage.trans hd.layout
  have hpos' : 0 < d.startNewPage.layout.lineHeight .heading := hl ▸ hpos
  have hlines : d.startNewPage.layout.lines .heading x.info.heading.toList ≠ [] :=
    Document.lines_ne_nil _ _
  have hs := Document.Stacked.placeLines (Document.blank_startNewPage hd.settled) hpos' hlines
  rw [← Document.writeStyled_eq, ← Document.writeHeading] at hs
  have hmarks := hs.marks
  rw [Document.layout_writeHeading, hl] at hmarks
  obtain ⟨name, hm⟩ := (d.startNewPage.writeHeading x.info.heading).marks_drawPicture p o.page
    o.imageProportion
  rw [hmarks] at hm
  refine ⟨(d.startNewPage.writeHeading x.info.heading).drawPicture p o.page o.imageProportion,
    name, ?yields, hm, ?below⟩
  case yields =>
    unfold renderAttachment
    dsimp only
    rw [if_neg (by simp [AttachmentInfo.hasValidNumber, hn]), hr]
    refine Yields.bind_iff.2 ⟨bytes, w', Yields.adapt_iff.2 hread, Yields.adapt_iff.2 ?_⟩
    have hdraw : Renderer.drawImage (d.startNewPage.writeHeading x.info.heading) bytes
        a.rendering.pageSize a.rendering.imageProportion = .ok _ :=
      Renderer.drawImage_ok_iff.2 ⟨p, hp, ⟨hw.ne', hh.ne'⟩, rfl⟩
    change (Renderer.drawImage _ bytes _ _, w') = _
    rw [hdraw]
    rfl
  case below =>
    have hshown : shown ≠ [] := by
      refine List.ne_nil_of_length_pos ?_
      rw [Options.length_lastLines (Document.lines_ne_nil _ _)]
      exact Options.linesOnLast_pos
    rw [hm]
    exact Document.below_lines_iff hpos hshown

/-! ### A large heading -/

def visits : Assembler (StateM Unit) ℚ where
  options := Options.exact.withHeadingFontSize 72

-- One pixel over another one.
def visitBytes : Bytes :=
  Bytes.ofText "P1\n1 2\n1 1\n"

def visitLog : Attachment (StateM Unit) :=
  .ofBytes ⟨1, "log.pbm", "Visit log", "image/png"⟩ visitBytes

def visitPicture : Matrix ℚ :=
  Placement.picture ⟨1, 2⟩ visits.options.page visits.options.imageProportion

theorem decode_visitBytes :
    ∃ p, Picture.decode visitBytes = .ok p ∧ p.width = 1 ∧ p.height = 2 := by
  have hsize : (Picture.decode visitBytes).toOption.map (fun p => (p.width, p.height)) =
      some (1, 2) := by decide +kernel
  cases hd : Picture.decode visitBytes with
  | error fault => simp [hd, Except.toOption] at hsize
  | ok p => exact ⟨p, rfl, by simpa [hd, Except.toOption] using hsize⟩

theorem picture_below_heading_visits :
    ∃ e name, ∃ shown : List (List Char), shown.length = 3 ∧
      Yields (visits.renderAttachment "visits" (.empty visits.options) visitLog) () e () ∧
      e.page.marks = Document.stack visits.options .heading shown ++ [.figure name visitPicture] ∧
      ¬∀ font size x y codes, .text font size x y codes ∈ e.page.marks → visitPicture.Below y := by
  obtain ⟨p, hp, hw, hh⟩ := decode_visitBytes
  have h := picture_below_heading (a := visits) (x := visitLog) (w := ()) "visits" ready_empty
    (by decide +kernel) (by decide +kernel) rfl (by decide +kernel) hp (by omega) (by omega)
  simp only [hw, hh, Nat.cast_one, Nat.cast_ofNat] at h
  obtain ⟨e, name, hy, hmarks, hbelow⟩ := h
  refine ⟨e, name, _, by decide +kernel, hy, hmarks, fun h => ?_⟩
  have hroom := hbelow.1 h
  revert hroom
  decide +kernel

end Assembler
end AccessReport
