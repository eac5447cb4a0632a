import AccessReport.Proofs.ColumnWidth
import AccessReport.Proofs.Pagination

namespace AccessReport

open Coordinate Pdf

variable {α : Type}

-- Something that is put on a page, with the number beside it if it has one.
structure NumberedLine (α : Type) where
  line   : Shown α
  number : Option (Shown α)

namespace NumberedLine

def all (l : NumberedLine α) : List (Shown α) :=
  l.line :: l.number.toList

def numbered? (l : NumberedLine α) : Option (Shown α × Shown α) :=
  l.number.map (l.line, ·)

theorem isEmpty_flatMap_all (ls : List (NumberedLine α)) :
    (ls.flatMap all).isEmpty = (ls.map line).isEmpty := by
  cases ls <;> simp [all]

end NumberedLine

-- A page with the numbers beside its lines.
structure NumberedPage (α : Type) where
  box   : Option (Object α)
  lines : List (NumberedLine α)

namespace NumberedPage

def bare (p : NumberedPage α) : Sheet α :=
  ⟨p.box, p.lines.map NumberedLine.line⟩

def full (p : NumberedPage α) : Sheet α :=
  ⟨p.box, p.lines.flatMap NumberedLine.all⟩

-- The numbers, each behind the line that it is beside.
def numbers (p : NumberedPage α) : List (Shown α × Shown α) :=
  p.lines.filterMap NumberedLine.numbered?

end NumberedPage

-- The pages of two documents that are written at the same time, one with numbers and one without.
structure Passes (α : Type) where
  pages   : List (NumberedPage α)
  current : Option (List (NumberedLine α) × α)

namespace Passes

def openLines (t : Passes α) : List (NumberedLine α) :=
  (t.current.map Prod.fst).getD []

def numbers (t : Passes α) : List (Shown α × Shown α) :=
  t.pages.flatMap NumberedPage.numbers ++ t.openLines.filterMap NumberedLine.numbered?

def closed (t : Passes α) (box : Option (Object α)) : List (NumberedPage α) :=
  t.pages ++ (t.current.map fun c => ⟨box, c.1⟩).toList

def put (t : Passes α) (new : List (NumberedLine α)) (cursor : α) : Passes α :=
  ⟨t.pages, some (t.openLines ++ new, cursor)⟩

theorem numbers_closed (t : Passes α) (box : Option (Object α)) :
    (t.closed box).flatMap NumberedPage.numbers = t.numbers := by
  cases h : t.current <;> simp [closed, numbers, openLines, NumberedPage.numbers, h]

theorem numbers_put (t : Passes α) (new : List (NumberedLine α)) (cursor : α) :
    (t.put new cursor).numbers = t.numbers ++ new.filterMap NumberedLine.numbered? := by
  simp [put, numbers, openLines]

end Passes

namespace Document

variable [Coordinate α]

-- Two documents without and with the numbers of the same pages.
structure Abreast (t : Passes α) (d d' : Document α) : Prop where
  left      : d.Sound
  right     : d'.Sound
  layout    : d'.layout = d.layout
  finished  : d.finished = t.pages.map NumberedPage.bare
  finished' : d'.finished = t.pages.map NumberedPage.full
  view      : d.view = t.current.map fun c => (c.1.map NumberedLine.line, c.2)
  view'     : d'.view = t.current.map fun c => (c.1.flatMap NumberedLine.all, c.2)

namespace Abreast

variable {t : Passes α} {d d' : Document α} {style : Style}

theorem page_view (h : Abreast t d d') :
    d.page.view d.store =
        (t.openLines.map NumberedLine.line, (t.current.map Prod.snd).getD d.layout.top) ∧
      d'.page.view d'.store =
        (t.openLines.flatMap NumberedLine.all, (t.current.map Prod.snd).getD d.layout.top) := by
  have hv := h.view
  have hv' := h.view'
  cases ht : t.current <;> cases hc : d.current <;> cases hc' : d'.current <;>
    simp_all [Document.view, page, OpenPage.blank, OpenPage.view, h.layout, Passes.openLines]

theorem cursor_eq (h : Abreast t d d') : d'.page.cursor = d.page.cursor :=
  (congrArg Prod.snd h.page_view.2).trans (congrArg Prod.snd h.page_view.1).symm

theorem isFull_eq (h : Abreast t d d') : d'.isFull style = d.isFull style := by
  have hv := h.view
  have hv' := h.view'
  cases ht : t.current <;> cases hc : d.current <;> cases hc' : d'.current <;>
    simp_all [Document.view, OpenPage.view, isFull, h.layout]
  rw [← List.isEmpty_map, hv'.1, NumberedLine.isEmpty_flatMap_all, ← hv.1, List.isEmpty_map]

theorem sheets (h : Abreast t d d') :
    d.sheets = (t.closed (some (mediaBox d.layout.page))).map NumberedPage.bare ∧
      d'.sheets = (t.closed (some (mediaBox d.layout.page))).map NumberedPage.full := by
  constructor
  · rw [Document.sheets, openSheet, h.finished, h.view]
    cases ht : t.current <;> simp [Passes.closed, NumberedPage.bare, ht]
  · rw [Document.sheets, openSheet, h.finished', h.view', h.layout]
    cases ht : t.current <;> simp [Passes.closed, NumberedPage.full, ht]

theorem pageCount_eq (h : Abreast t d d') : d'.pageCount = d.pageCount := by
  have ⟨hd, hd'⟩ := h.sheets
  rw [← length_sheets, ← length_sheets, hd, hd', List.length_map, List.length_map]

theorem closePage (h : Abreast t d d') :
    Abreast ⟨t.closed (some (mediaBox d.layout.page)), none⟩ d.closePage d'.closePage where
  left      := h.left.closePage
  right     := h.right.closePage
  layout    := by simp [h.layout]
  finished  := by rw [h.left.finished_closePage, h.sheets.1]
  finished' := by rw [h.right.finished_closePage, h.sheets.2]
  view      := by simp [Document.view]
  view'     := by simp [Document.view]

theorem turned (h : Abreast t d d') (style : Style) :
    ∃ t', Abreast t' (d.turned style) (d'.turned style) ∧ t'.numbers = t.numbers := by
  unfold Document.turned
  rw [h.isFull_eq]
  split
  · exact ⟨_, h.closePage, by simp [Passes.numbers, Passes.openLines, t.numbers_closed]⟩
  · exact ⟨t, h, rfl⟩

-- What is put on both pages is the same, but for the numbers.
theorem put (h : Abreast t d d') (new : List (NumberedLine α)) {marks marks' : List (Mark α)}
    (hp : Plain marks) (hp' : Plain marks')
    (hm : ∀ s figures, marks.map (Mark.shown s figures) = new.map NumberedLine.line)
    (hm' : ∀ s figures, marks'.map (Mark.shown s figures) = new.flatMap NumberedLine.all)
    (cursor : α) : Abreast (t.put new cursor) (d.put marks cursor) (d'.put marks' cursor) :=
  { h with
    left  := h.left.put hp cursor
    right := h.right.put hp' cursor
    view  := by
      have hv := congrArg Prod.fst h.page_view.1
      simp only [OpenPage.view] at hv
      simp [Document.view, Document.put, OpenPage.view, Passes.put, hv, hm]
    view' := by
      have hv := congrArg Prod.fst h.page_view.2
      simp only [OpenPage.view] at hv
      simp [Document.view, Document.put, OpenPage.view, Passes.put, hv, hm'] }

theorem placeLines (h : Abreast t d d') (style : Style) (x : Options α → List Char → α)
    (lines : List (List Char)) : ∃ t', Abreast t' (d.placeLines style x lines)
      (d'.placeLines style x lines) ∧ t'.numbers = t.numbers := by
  induction lines generalizing t d d' with
  | nil => exact ⟨t, h, rfl⟩
  | cons line lines ih =>
    obtain ⟨t₁, h₁, hn₁⟩ := h.turned style
    let y := (d.turned style).page.cursor - d.layout.size style
    have h₂ := h₁.put [⟨lineShown d.layout style (x d.layout line) y line, none⟩]
      plain_lineMark plain_lineMark (fun _ _ => rfl) (fun _ _ => rfl)
      ((d.turned style).page.cursor - d.layout.lineHeight style)
    obtain ⟨t₃, h₃, hn₃⟩ := ih h₂
    refine ⟨t₃, ?_, ?_⟩
    · rw [placeLines_cons, placeLines_cons, placeLine_eq, placeLine_eq]
      simp only [h₁.cursor_eq, h.layout, layout_turned]
      exact h₃
    · simp [hn₃, Passes.numbers_put, NumberedLine.numbered?, hn₁]

-- A row with a number that does not take anything from the room for its label.
theorem writeRow (h : Abreast t d d') {label number : String} (hne : number.isEmpty = false)
    (hl : d.layout.rowLines .body label.toList number.toList =
      d.layout.rowLines .body label.toList []) :
    ∃ t' line rest y, d.layout.rowLines .body label.toList [] = line :: rest ∧
      Abreast t' (d.writeRow .body label "") (d'.writeRow .body label number) ∧
      t'.numbers = t.numbers ++ [(lineShown d.layout .body d.layout.margin y line,
        lineShown d.layout .body (d.layout.rightColumn .body number.toList) y number.toList)] := by
  obtain ⟨line, rest, hr⟩ := List.exists_cons_of_ne_nil
    (show d.layout.rowLines .body label.toList [] ≠ [] from Wrap.wrap_ne_nil _ _)
  obtain ⟨t₁, h₁, hn₁⟩ := h.turned .body
  let y := (d.turned .body).page.cursor - d.layout.size .body
  let new : NumberedLine α := ⟨lineShown d.layout .body d.layout.margin y line,
    some (lineShown d.layout .body (d.layout.rightColumn .body number.toList) y number.toList)⟩
  have hright : rightMarks d.layout .body y number = [lineMark d.layout .body
      (d.layout.rightColumn .body number.toList) y number.toList] := by
    simp [rightMarks, hne]
  have h₂ := h₁.put [new] plain_lineMark (plain_lineMark.append plain_rightMarks)
    (fun _ _ => rfl) (fun _ _ => by rw [hright]; rfl)
    ((d.turned .body).page.cursor - d.layout.lineHeight .body)
  obtain ⟨t₃, h₃, hn₃⟩ := h₂.placeLines .body (fun o _ => o.margin) rest
  refine ⟨t₃, line, rest, y, hr, ?_, ?_⟩
  · rw [writeRow_eq, writeRow_eq, h.layout, hl, show "".toList = [] from rfl, hr]
    simp only [placeLine_eq, h₁.cursor_eq, h.layout, layout_turned, layout_put, put_put]
    exact h₃
  · simp [hn₃, Passes.numbers_put, NumberedLine.numbered?, hn₁, new]

-- A document without rows is abreast of itself.
theorem refl (h : d.Sound) : ∃ t, Abreast t d d ∧ t.numbers = [] := by
  let plain (l : List (Shown α)) : List (NumberedLine α) := l.map (⟨·, none⟩)
  have hline (l : List (Shown α)) : (plain l).map NumberedLine.line = l := by
    simp [plain, Function.comp_def]
  have hall (l : List (Shown α)) : (plain l).flatMap NumberedLine.all = l := by
    simp [plain, NumberedLine.all, List.flatMap_map]
  have hnumbers (l : List (Shown α)) : (plain l).filterMap NumberedLine.numbered? = [] := by
    simp [plain, NumberedLine.numbered?]
  refine ⟨⟨d.finished.map fun s => ⟨s.box, plain s.shown⟩, d.view.map fun v => (plain v.1, v.2)⟩,
    ⟨h, h, rfl, ?finished, ?finished', ?view, ?view'⟩, ?numbers⟩
  case finished => simp [NumberedPage.bare, hline, Function.comp_def]
  case finished' => simp [NumberedPage.full, hall, Function.comp_def]
  case view => simp [hline, Function.comp_def]
  case view' => simp [hall, Function.comp_def]
  case numbers =>
    cases d.view <;>
      simp [Passes.numbers, Passes.openLines, NumberedPage.numbers, hnumbers, List.flatMap_map]

end Abreast

-- The number of a row is at the right margin, on the baseline of the first line of its label.
def HasNumber (layout : Options α) (first : Nat) (row : ContentsRow) (n : Shown α × Shown α) :
    Prop :=
  let number := (natText (first + row.page)).toList
  ∃ line rest y, layout.rowLines .body row.label.toList [] = line :: rest ∧
    n = (lineShown layout .body layout.margin y line,
      lineShown layout .body (layout.rightColumn .body number) y number)

-- While no number takes room from a label, the contents with numbers are those without them, and
-- the numbers.
theorem contents_abreast (layout : Options α) {first : Nat} {rows : List ContentsRow}
    (h : ∀ row ∈ rows, layout.rowLines .body row.label.toList (natText (first + row.page)).toList =
      layout.rowLines .body row.label.toList []) :
    ∃ t, Abreast t (contents layout none rows) (contents layout (some first) rows) ∧
      List.Forall₂ (HasNumber layout first) rows t.numbers := by
  rw [contents_eq, contents_eq]
  have step {t : Passes α} {d d' : Document α} (hd : Abreast t d d') (hl : d.layout = layout) :
      ∃ t' new, Abreast t'
          (rows.foldl (fun d row => d.writeRow .body row.label (pageLabel none row)) d)
          (rows.foldl (fun d row => d.writeRow .body row.label (pageLabel (some first) row)) d') ∧
        t'.numbers = t.numbers ++ new ∧ List.Forall₂ (HasNumber layout first) rows new := by
    induction rows generalizing t d d' with
    | nil => exact ⟨t, [], hd, by simp, .nil⟩
    | cons row rows ih =>
      obtain ⟨t₁, line, rest, y, hr, hd₁, hn₁⟩ :=
        hd.writeRow (isEmpty_natText (first + row.page)) (hl ▸ h row (.head _))
      obtain ⟨t', new, hd', hn', hnew⟩ :=
        ih (fun row hrow => h row (.tail _ hrow)) hd₁ (layout_writeRow.trans hl)
      rw [hl] at hr hn₁
      exact ⟨t', _ :: new, hd', by rw [hn', hn₁, List.append_assoc]; rfl,
        .cons ⟨line, rest, y, hr, rfl⟩ hnew⟩
  obtain ⟨t, ht, hn⟩ := Abreast.refl (sound_contentsHead layout)
  obtain ⟨t', new, ht', hn', hnew⟩ := step ht (layout_contentsHead layout)
  rw [hn, List.nil_append] at hn'
  exact ⟨t', ht', hn' ▸ hnew⟩

end Document

namespace Assembler

-- Numbers of up to six digits change nothing about the contents but that they are there, so that no
-- report fails for them.
theorem contents_passes (o : Options Float32) (x : Float32) {first : Nat}
    {rows : List ContentsRow} (h : ∀ row ∈ rows, first + row.page < 10 ^ 6) :
    let layout := o.withFontSize x
    let bare := Document.contents layout none rows
    let numbered := Document.contents layout (some first) rows
    bare.pageCount = numbered.pageCount ∧
      (∃ pages : List (NumberedPage Float32),
        bare.sheets = pages.map NumberedPage.bare ∧
        numbered.sheets = pages.map NumberedPage.full ∧
        List.Forall₂ (Document.HasNumber layout first) rows
          (pages.flatMap NumberedPage.numbers)) ∧
      ∀ (σ : Type) (a : Assembler (StateM σ) Float32) (r : Request (StateM σ)) (b : Body Float32)
        (w w' : σ), a.options = layout → layout.validate = .ok () →
        Yields (a.renderBody r.sections) w b w' → b.rows = rows →
        first = 1 + bare.pageCount + 1 → ∃ report, Yields (a.assemble r) w report w' := by
  intro layout bare numbered
  have hdigits (row) (hrow : row ∈ rows) : (natText (first + row.page)).toList.length ≤ 6 := by
    rw [toList_natText]
    exact Decimal.length_digitsOf_le (by decide) (h row hrow)
  obtain ⟨t, ht, hn⟩ := Document.contents_abreast layout fun row hrow =>
    o.rowLines_withFontSize x row.label.toList (hdigits row hrow)
  have ⟨hbare, hnumbered⟩ := ht.sheets
  have hcount : bare.pageCount = numbered.pageCount := by
    rw [← Document.length_sheets, ← Document.length_sheets, hbare, hnumbered, List.length_map,
      List.length_map]
  refine ⟨hcount, ⟨_, hbare, hnumbered, (t.numbers_closed _).symm ▸ hn⟩, ?_⟩
  intro σ a r b w w' ha hvalid hbody hrows hfirst
  have hfinish : ∃ report, a.finish r.subject b = .ok report := by
    unfold finish
    dsimp only
    rw [ha, hrows, if_neg]
    · exact ⟨_, rfl⟩
    · change ¬(Document.contents layout (some (1 + bare.pageCount + 1)) rows).pageCount ≠ _
      rw [← hfirst]
      exact not_not.2 hcount.symm
  obtain ⟨report, hreport⟩ := hfinish
  refine ⟨report, ?_⟩
  unfold assemble
  rw [ha, hvalid]
  exact Yields.bind_iff.2 ⟨b, w', hbody, Yields.except_iff.2 ⟨hreport, rfl⟩⟩

theorem contents_passes_sample :
    let rows : List ContentsRow := [⟨"Court Case Service", 0⟩, ⟨"Prison Service", 7⟩]
    let layout := sample.options.withFontSize (ofInt 12)
    (∀ row ∈ rows, 3 + row.page < 10 ^ 6) ∧
      (Document.contents layout none rows).pageCount =
        (Document.contents layout (some 3) rows).pageCount ∧
      ∃ pages : List (NumberedPage Float32),
        (Document.contents layout none rows).sheets = pages.map NumberedPage.bare ∧
        (Document.contents layout (some 3) rows).sheets = pages.map NumberedPage.full ∧
        List.Forall₂ (Document.HasNumber layout 3) rows (pages.flatMap NumberedPage.numbers) := by
  intro rows layout
  have hrows : ∀ row ∈ rows, 3 + row.page < 10 ^ 6 := by decide
  have ⟨hcount, hpages, _⟩ := contents_passes sample.options (ofInt 12) hrows
  exact ⟨hrows, hcount, hpages⟩

end Assembler
end AccessReport
