import AccessReport.Proofs.Baselines
import AccessReport.Proofs.Building
import AccessReport.Proofs.Wrapping

namespace AccessReport

open Coordinate Pdf

namespace Measure

theorem glyphShare_exact : (glyphShare : ℚ) = 1 / 2 := by
  decide +kernel

theorem width_exact (text : List Char) (size : ℚ) : width text size = text.length * (size / 2) := by
  unfold width
  rw [glyphShare_exact, mul_assoc, mul_one_div]
  rfl

-- As many characters as go on a line are not too wide for it, unless they are the least number.
theorem charsPerLine_mul_le {w size : ℚ} (hw : 0 ≤ w) (hs : 0 < size) :
    charsPerLine w size * (size / 2) ≤ max w (4 * size) := by
  have hglyph : 0 < size / 2 := half_pos hs
  have hfloor : (⌊w / (size / 2)⌋₊ : ℚ) * (size / 2) ≤ w :=
    (le_div_iff₀ hglyph).1 <| Nat.floor_le <| div_nonneg hw hglyph.le
  have hleast : (leastChars : ℚ) * (size / 2) = 4 * size := by
    rw [leastChars]
    ring
  have hchars : charsPerLine w size = max ⌊w / (size / 2)⌋₊ leastChars := by
    rw [charsPerLine, glyphShare_exact, mul_one_div]
    rfl
  rw [hchars, Nat.cast_max, max_mul_of_nonneg _ _ hglyph.le, hleast]
  exact max_le_max_right _ hfloor

end Measure

namespace Options

variable {o : Options ℚ} {text line : List Char}

-- A line of body text that starts at the left margin ends at the right one, or before it.
def Fits (o : Options ℚ) (line : List Char) : Prop :=
  Measure.width line o.fontSize ≤ o.textWidth

theorem length_le_of_mem_lines (h : Wrap.indent text = []) (hl : line ∈ o.lines .body text) :
    line.length ≤ Measure.charsPerLine o.textWidth o.fontSize := by
  have hle := Wrap.length_le_of_mem_wrap line hl
  have hleast : Measure.leastChars ≤ Measure.charsPerLine o.textWidth o.fontSize :=
    Nat.le_max_right ..
  rw [h] at hle
  exact hle.trans <| max_le le_rfl <| le_trans (by decide) hleast

-- However narrow the page is, eight characters go on a line.
theorem lines_of_length_le (h : text.length ≤ Measure.leastChars) : o.lines .body text = [text] :=
  if_pos <| h.trans <| Nat.le_max_right ..

theorem width_nonpos (hs : o.fontSize ≤ 0) (line : List Char) :
    Measure.width line o.fontSize ≤ 0 := by
  rw [Measure.width_exact]
  exact mul_nonpos_of_nonneg_of_nonpos (Nat.cast_nonneg _) (by linarith)

theorem lt_textWidth (h : o.validate = .ok ()) : o.fontSize < o.textWidth :=
  (validate_ok_iff.1 h).2.1

theorem width_le_of_mem_lines (hv : o.validate = .ok ()) (h : Wrap.indent text = [])
    (hl : line ∈ o.lines .body text) :
    Measure.width line o.fontSize ≤ max o.textWidth (max 0 (4 * o.fontSize)) := by
  rcases le_or_gt o.fontSize 0 with hs | hs
  · exact (width_nonpos hs line).trans <| le_max_of_le_right <| le_max_left ..
  · have hlength : (line.length : ℚ) ≤ Measure.charsPerLine o.textWidth o.fontSize :=
      Nat.cast_le.2 <| length_le_of_mem_lines h hl
    have hwidth := mul_le_mul_of_nonneg_right hlength (half_pos hs).le
    rw [Measure.width_exact]
    calc (line.length : ℚ) * (o.fontSize / 2)
        ≤ max o.textWidth (4 * o.fontSize) :=
          hwidth.trans <| Measure.charsPerLine_mul_le (hs.trans (lt_textWidth hv)).le hs
      _ ≤ max o.textWidth (max 0 (4 * o.fontSize)) := max_le_max_left _ <| le_max_right ..

-- Body text without a blank in front stays between the margins.
def Contains (o : Options ℚ) : Prop :=
  ∀ text : String, text.toList.takeWhile Text.isBlank = [] →
    ∀ line ∈ o.lines .body text.toList, o.Fits line

theorem contains_iff (hv : o.validate = .ok ()) (hs : 0 < o.fontSize) :
    o.Contains ↔ 4 * o.fontSize ≤ o.textWidth := by
  constructor
  · intro hc
    have hfits := hc "abcdefgh" (by decide) "abcdefgh".toList <| by
      rw [lines_of_length_le (by decide)]
      exact .head _
    have hlength : ("abcdefgh".toList.length : ℚ) = 8 := by decide +kernel
    rw [Fits, Measure.width_exact, hlength] at hfits
    linarith
  · intro hwide text htext line hl
    have hroom : max 0 (4 * o.fontSize) ≤ o.textWidth :=
      max_le (hs.trans (lt_textWidth hv)).le hwide
    have hle := width_le_of_mem_lines hv htext hl
    rwa [max_eq_left hroom] at hle

theorem contains_iff_of_nonpos (hs : o.fontSize ≤ 0) : o.Contains ↔ 0 ≤ o.textWidth := by
  constructor
  · intro hc
    have hfits := hc "" (by decide) [] <| by
      rw [lines_of_length_le (by decide)]
      exact .head _
    rwa [Fits, Measure.width_exact, List.length_nil, Nat.cast_zero, zero_mul] at hfits
  · intro hw _ _ line _
    exact (width_nonpos hs line).trans hw

end Options

namespace Document

variable {d : Document ℚ} {sizes : List (Dimensions ℚ)}

-- Each line has a mark of its own, in the order of the lines.
theorem Paged.marks_placeLines (h : d.Paged) (style : Style) (x : Options ℚ → List Char → ℚ)
    (lines : List (List Char)) :
    ∃ new, (d.placeLines style x lines).marks = d.marks ++ new ∧
      List.Forall₂ (fun line m => ∃ y, m = lineMark d.layout style (x d.layout line) y line)
        lines new := by
  induction lines generalizing d with
  | nil => exact ⟨[], (List.append_nil _).symm, .nil⟩
  | cons line lines ih =>
    obtain ⟨new, hmarks, hnew⟩ := ih (h.extends_placeLine style (x d.layout line) line).paged
    rw [layout_placeLine] at hnew
    rw [placeLines_cons, hmarks, placeLine_eq]
    dsimp only
    rw [marks_put, h.marks_turned, layout_turned, List.append_assoc, List.singleton_append]
    exact ⟨_, rfl, .cons ⟨_, rfl⟩ hnew⟩

-- Body text starts at the left margin and ends before the right one, unless the page has no room
-- for the characters that always go on a line.
theorem writeLine_between_margins (h : Built d sizes) (hv : d.layout.validate = .ok ()) :
    let o := d.layout
    (∀ text : String, text.toList.takeWhile Text.isBlank = [] →
      let lines := o.lines .body text.toList
      (∃ new, (d.writeLine text).marks = d.marks ++ new ∧
        List.Forall₂ (fun line m => ∃ y, m = lineMark o .body o.margin y line) lines new) ∧
      ∀ line ∈ lines, Measure.width line o.fontSize ≤ max o.textWidth (max 0 (4 * o.fontSize))) ∧
    (0 < o.fontSize → (o.Contains ↔ 4 * o.fontSize ≤ o.textWidth)) ∧
    (o.fontSize ≤ 0 → (o.Contains ↔ 0 ≤ o.textWidth)) := by
  refine ⟨fun text htext => ⟨?marks, fun line => ?width⟩, d.layout.contains_iff hv,
    d.layout.contains_iff_of_nonpos⟩
  case marks => exact h.paged.marks_placeLines .body (fun o _ => o.margin) _
  case width => exact Options.width_le_of_mem_lines hv htext

-- A page with a heading on it.
def diary : Document ℚ :=
  (empty Options.exact).writeHeading "Day 1"

theorem built_diary : Built diary [Options.exact.page] := by
  have hn : diary.pageCount - (empty Options.exact).pageCount = 1 := by decide +kernel
  have h := (Built.empty Options.exact).edit (.text (.styled .heading "Day 1"))
  rw [← writeHeading, ← diary, hn] at h
  exact h

theorem writeLine_between_margins_diary :
    let o := diary.layout
    Built diary [Options.exact.page] ∧ o.validate = .ok () ∧ o.Contains ∧
    ∀ text : String, text.toList.takeWhile Text.isBlank = [] →
      let lines := o.lines .body text.toList
      (∃ new, (diary.writeLine text).marks = diary.marks ++ new ∧
        List.Forall₂ (fun line m => ∃ y, m = lineMark o .body o.margin y line) lines new) ∧
      ∀ line ∈ lines, Measure.width line o.fontSize ≤ max o.textWidth (max 0 (4 * o.fontSize)) := by
  intro o
  have ho : o = Options.exact := layout_writeHeading
  have hv : o.validate = .ok () := ho ▸ Options.roomy_exact.valid
  have hs : 0 < o.fontSize := ho ▸ Options.regular_exact.size .body
  have hroom : 4 * o.fontSize ≤ o.textWidth := by
    rw [ho]
    decide +kernel
  have ⟨hlines, hcontains, _⟩ := writeLine_between_margins built_diary hv
  exact ⟨built_diary, hv, (hcontains hs).2 hroom, hlines⟩

-- The default layout on a page that is hardly wider than its margins.
def narrow : Options ℚ :=
  Options.exact.withPageSize (.custom ⟨120, 842⟩)

theorem writeLine_narrow :
    let line := "abcdefgh".toList
    narrow.validate = .ok () ∧ line.takeWhile Text.isBlank = [] ∧
    ((empty narrow).writeLine "abcdefgh").marks =
      [lineMark narrow .body narrow.margin 782 line] ∧
    ¬ Measure.width line narrow.fontSize ≤ narrow.textWidth := by
  intro line
  refine ⟨Options.validate_ok_iff.2 ?valid, by decide, ?marks, by decide +kernel⟩
  case valid => decide +kernel
  case marks =>
    have hl : (empty narrow).layout.lines .body "abcdefgh".toList = [line] :=
      Options.lines_of_length_le (by decide)
    have hy : narrow.top - narrow.fontSize = 782 := by decide +kernel
    rw [writeLine, writeStyled_eq, hl]
    exact congrArg (fun y => [lineMark narrow .body narrow.margin y line]) hy

end Document
end AccessReport
