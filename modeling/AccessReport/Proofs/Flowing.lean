import AccessReport.Proofs.Building

namespace AccessReport

open Coordinate Pdf

variable {α : Type}

-- How a line is shown when it is read from a page.
def lineText (line : List Char) : String :=
  Bytes.toText (WinAnsi.encode line)

namespace Pdf

theorem shownStrings_append (os os' : List (Operation α)) :
    shownStrings (os ++ os') = shownStrings os ++ shownStrings os' :=
  List.filterMap_append

-- Of what is on a page the lines of text are shown.
theorem shownStrings_operations (marks : List (Mark α)) :
    shownStrings (marks.flatMap Mark.operations) = marks.filterMap Document.codes? := by
  have mark (m : Mark α) : shownStrings m.operations = (Document.codes? m).toList := by
    cases m <;> simp [Mark.operations, Operation.of, shownStrings, Bytes.ofText, Document.codes?]
  induction marks with
  | nil => rfl
  | cons m marks ih =>
    rw [List.flatMap_cons, shownStrings_append, mark, ih]
    cases h : Document.codes? m <;> simp [h]

end Pdf

variable [Coordinate α]

namespace Options

-- The lines of a block, each of them wrapped between the margins.
def wrapped (o : Options α) (block : String) : List (List Char) :=
  (Text.lines block.toList).flatMap fun line =>
    Wrap.wrap line (Measure.charsPerLine o.textWidth o.fontSize)

theorem wrapped_ne_nil (o : Options α) {block : String} : o.wrapped block ≠ [] := by
  have ⟨line, lines, hl⟩ := List.exists_cons_of_ne_nil <| Text.cut_ne_nil (· = '\n') block.toList
  rw [wrapped, Text.lines, hl, List.flatMap_cons]
  exact List.append_ne_nil_of_left_ne_nil (Wrap.wrap_ne_nil _ _) _

end Options

-- What is read from the content of a page is what was put on it.
def Leaf.Reads (l : Leaf α) : Prop :=
  shownStrings (operations (marksBytes l.marks) : List (Operation α)) = l.lines

instance (l : Leaf α) : Decidable l.Reads :=
  inferInstanceAs (Decidable (_ = _))

namespace Document

variable {d e : Document α} {style : Style} {line : List Char} {lines : List (List Char)}
  {x : Options α → List Char → α}

-- There is something on the open page, and no room for a line above the margin.
def Overflows (d : Document α) (style : Style) : Prop :=
  ∃ p, d.current = some p ∧ p.marks ≠ [] ∧
    p.cursor - d.layout.lineHeight style < d.layout.margin

theorem isFull_iff : d.isFull style = true ↔ d.Overflows style := by
  cases h : d.current <;> simp [isFull, Overflows, h]

instance (d : Document α) (style : Style) : Decidable (d.Overflows style) :=
  decidable_of_iff _ isFull_iff

-- The page that a line goes to: the open one, or the next one if that overflows.
def pageFor (d : Document α) (style : Style) : OpenPage α :=
  if d.Overflows style then OpenPage.blank d.layout else d.page

-- One more line at the end of that page, and no other change.
structure Places (d : Document α) (style : Style) (x : α) (line : List Char) (e : Document α) :
    Prop where
  layout : e.layout = d.layout
  index  : e.currentIndex = d.currentIndex + if d.Overflows style then 1 else 0
  opened : let p := d.pageFor style
           let y := p.cursor - d.layout.size style
           e.current = some { p with
             marks  := p.marks ++ [lineMark d.layout style x y line]
             cursor := p.cursor - d.layout.lineHeight style }
  texts  : e.pageTexts = d.pageTexts.take e.currentIndex ++
             [(d.pageTexts[e.currentIndex]?).getD [] ++ [lineText line]]

-- Lines that are placed one after the other.
inductive Flows (style : Style) (x : Options α → List Char → α) :
    Document α → List (List Char) → Document α → Prop
  | nil (d : Document α) : Flows style x d [] d
  | cons {d e f : Document α} {line : List Char} {lines : List (List Char)} :
      Places d style (x d.layout line) line e → Flows style x e lines f →
      Flows style x d (line :: lines) f

/-! ### One line -/

theorem pageTexts_put (marks : List (Mark α)) (cursor : α) :
    (d.put marks cursor).pageTexts = d.pageTexts.take d.currentIndex ++
      [(d.pageTexts[d.currentIndex]?).getD [] ++ (marks.filterMap codes?).map Bytes.toText] := by
  have hl : (d.pageIds.map fun id => (d.store.pageStrings id).map Bytes.toText).length =
      d.currentIndex := List.length_map ..
  cases h : d.current with
  | none =>
    simp only [pageTexts, put, page, h, Option.getD_none, OpenPage.blank, List.nil_append,
      shownStrings_operations]
    rw [List.take_of_length_le (Nat.le_of_eq hl), List.getElem?_eq_none (Nat.le_of_eq hl)]
    rfl
  | some p =>
    simp only [pageTexts, put, page, h, Option.getD_some, shownStrings_operations,
      List.filterMap_append, List.map_append]
    rw [List.take_left' hl, List.getElem?_append_right (Nat.le_of_eq hl), hl, Nat.sub_self]
    rfl

theorem legible_iff : d.Legible ↔ ∀ l ∈ d.openLeaf, l.Reads := by
  simp only [Legible, Leaf.Reads, openLeaf, shownStrings_operations, Option.mem_def,
    Option.map_eq_some_iff, forall_exists_index, and_imp, forall_apply_eq_imp_iff₂]
  rfl

theorem legible_of_none (h : d.current = none) : d.Legible := by
  simp [Legible, h]

theorem Paged.pageTexts_closePage (h : d.Paged) (hl : d.Legible) :
    d.closePage.pageTexts = d.pageTexts := by
  rw [h.closePage.pageTexts_eq (legible_of_none current_closePage), h.leaves_closePage,
    h.pageTexts_eq hl]

theorem Overflows.currentIndex_closePage (h : d.Overflows style) :
    d.closePage.currentIndex = d.currentIndex + 1 := by
  obtain ⟨p, hp, -⟩ := h
  simp [closePage_of_some hp, currentIndex]

theorem turned_eq : d.turned style = if d.Overflows style then d.closePage else d :=
  if_congr isFull_iff rfl rfl

theorem page_turned : (d.turned style).page = d.pageFor style := by
  rw [turned_eq, pageFor]
  split
  · rw [page, current_closePage, layout_closePage]
    rfl
  · rfl

theorem currentIndex_turned : (d.turned style).currentIndex =
    d.currentIndex + if d.Overflows style then 1 else 0 := by
  rw [turned_eq]
  split
  case isTrue h => exact h.currentIndex_closePage
  case isFalse => rfl

theorem Paged.pageTexts_turned (h : d.Paged) (hl : d.Overflows style → d.Legible) :
    (d.turned style).pageTexts = d.pageTexts := by
  rw [turned_eq]
  split
  case isTrue ho => exact h.pageTexts_closePage <| hl ho
  case isFalse => rfl

theorem Paged.places (h : d.Paged) (hl : d.Overflows style → d.Legible) (x : α) :
    Places d style x line (d.placeLine style x line).1 := by
  rw [placeLine_eq]
  refine ⟨layout_turned, currentIndex_turned, ?opened, ?texts⟩
  case opened => simp [put, page_turned]
  case texts =>
    rw [pageTexts_put, h.pageTexts_turned hl]
    rfl

omit [Coordinate α] in
theorem pageCount_le (d : Document α) : d.pageCount ≤ d.currentIndex + 1 := by
  unfold pageCount currentIndex
  split <;> omega

namespace Places

variable {y : α}

-- No page is behind the one that a line goes to.
theorem flatten (h : Places d style y line e) :
    e.pageTexts.flatten = d.pageTexts.flatten ++ [lineText line] := by
  have hd : (d.pageTexts.drop e.currentIndex).length ≤ 1 := by
    have hi := h.index
    have hc := d.pageCount_le
    rw [List.length_drop, length_pageTexts]
    omega
  have hlast : d.pageTexts.drop e.currentIndex = (d.pageTexts[e.currentIndex]?).toList := by
    rw [← List.take_of_length_le hd, List.take_one, List.head?_drop]
  have hpages := List.take_append_drop e.currentIndex d.pageTexts
  rw [h.texts, ← congrArg List.flatten hpages, hlast]
  cases d.pageTexts[e.currentIndex]? <;> simp

theorem getLast? (h : Places d style y line e) :
    (e.pageTexts[e.currentIndex]?).bind List.getLast? = some (lineText line) := by
  have hi : (d.pageTexts.take e.currentIndex).length = e.currentIndex := by
    have he : e.pageTexts.length = e.currentIndex + 1 := by
      rw [length_pageTexts, pageCount, h.opened]
      rfl
    rw [h.texts, List.length_append, List.length_singleton] at he
    exact Nat.succ.inj he
  rw [h.texts, List.getElem?_append_right (Nat.le_of_eq hi), hi, Nat.sub_self]
  simp

end Places

/-! ### Lines in a row -/

theorem placeLines_append (lines' : List (List Char)) :
    d.placeLines style x (lines ++ lines') =
      (d.placeLines style x lines).placeLines style x lines' :=
  List.foldl_append

theorem writeBlock_eq (block : String) :
    d.writeBlock block = d.placeLines .body (fun o _ => o.margin)
      ((Text.lines block.toList).flatMap (d.layout.lines .body)) := by
  unfold writeBlock
  induction Text.lines block.toList generalizing d with
  | nil => rfl
  | cons line lines ih =>
    rw [List.foldl_cons, ih, layout_writeLine, List.flatMap_cons, placeLines_append, writeLine,
      writeStyled_eq, String.toList_ofList]

-- The page that is full is finished with all that is on it.
theorem Paged.finishedLeaves_placeLine (h : d.Paged) (ho : d.Overflows style) (x : α) :
    (d.placeLine style x line).1.finishedLeaves = d.leaves := by
  have ht : d.turned style = d.closePage := turned_eq.trans <| if_pos ho
  rw [← h.leaves_closePage, leaves_of_none current_closePage, ← ht]
  rfl

theorem Paged.flows (h : d.Paged)
    (hread : ∀ l ∈ (d.placeLines style x lines).finishedLeaves.drop d.currentIndex, l.Reads) :
    Flows style x d lines (d.placeLines style x lines) := by
  induction lines generalizing d with
  | nil => exact .nil d
  | cons line lines ih =>
    have hline := h.extends_placeLine style (x d.layout line) line
    have hlines := hline.paged.extends_placeLines style x lines
    rw [placeLines_cons] at hread ⊢
    refine .cons (h.places (fun ho => ?legible) _) (ih hline.paged fun l hl => ?rest)
    case legible =>
      have ⟨new, hn⟩ := hlines.finishedLeaves hline.paged
      rw [h.finishedLeaves_placeLine ho, leaves, List.append_assoc] at hn
      rw [legible_iff]
      intro l hl
      refine hread l ?_
      rw [← hn, List.drop_left' length_finishedLeaves]
      exact List.mem_append_left _ <| Option.mem_toList.2 hl
    case rest => exact hread l <| List.drop_subset_drop_left _ hline.pageIds.length_le hl

namespace Flows

theorem flatten (h : Flows style x d lines e) :
    e.pageTexts.flatten = d.pageTexts.flatten ++ lines.map lineText := by
  induction h with
  | nil => simp
  | cons hp _ ih => rw [ih, hp.flatten, List.append_assoc, List.singleton_append, List.map_cons]

theorem getLast? (h : Flows style x d lines e) (hne : lines ≠ []) :
    (e.pageTexts[e.currentIndex]?).bind List.getLast? = lines.getLast?.map lineText := by
  induction h with
  | nil => cases hne rfl
  | @cons _ _ _ line lines hp hf ih =>
    cases lines with
    | nil =>
      cases hf
      exact hp.getLast?
    | cons => exact ih nofun

end Flows

-- A block comes behind all that was written, line by line, and a page is turned only when there is
-- no room for the next line on it.
theorem writeBlock_flows {sizes : List (Dimensions α)} (h : Built d sizes) (block : String)
    (hread : ∀ l ∈ (d.writeBlock block).finishedLeaves.drop d.currentIndex, l.Reads) :
    let e := d.writeBlock block
    let lines := d.layout.wrapped block
    e.pageTexts.flatten = d.pageTexts.flatten ++ lines.map lineText ∧
      Flows .body (fun o _ => o.margin) d lines e ∧
      (e.pageTexts[e.currentIndex]?).bind List.getLast? = lines.getLast?.map lineText := by
  intro e lines
  have he : e = d.placeLines .body (fun o _ => o.margin) lines := writeBlock_eq block
  have hf : Flows .body (fun o _ => o.margin) d lines e := by
    rw [he]
    exact h.paged.flows (he ▸ hread)
  exact ⟨hf.flatten, hf, hf.getLast? d.layout.wrapped_ne_nil⟩

-- A small page with a heading on it.
def slip : Document Float32 :=
  (empty (sampleLayout.withPageSize (.custom ⟨140, 150⟩))).writeHeading "Day 1"

theorem built_slip : Built slip [slip.layout.page] := by
  let layout := sampleLayout.withPageSize (.custom ⟨140, 150⟩)
  have hn : ((empty layout).writeHeading "Day 1").pageCount - (empty layout).pageCount = 1 := by
    decide +kernel
  have h := (Built.empty layout).edit (.text (.styled .heading "Day 1"))
  have hl : slip.layout = layout := layout_writeHeading
  rw [← writeHeading, hn] at h
  rw [hl]
  exact h

theorem writeBlock_flows_slip :
    let block := "It rained\n\n(all day)"
    let e := slip.writeBlock block
    let lines := slip.layout.wrapped block
    Built slip [slip.layout.page] ∧
      (∀ l ∈ e.finishedLeaves.drop slip.currentIndex, l.Reads) ∧
      e.pageCount = slip.pageCount + 1 ∧
      e.pageTexts.flatten = slip.pageTexts.flatten ++ lines.map lineText ∧
      Flows .body (fun o _ => o.margin) slip lines e ∧
      (e.pageTexts[e.currentIndex]?).bind List.getLast? = lines.getLast?.map lineText := by
  intro block e lines
  have hread : ∀ l ∈ e.finishedLeaves.drop slip.currentIndex, l.Reads := by decide +kernel
  have hcount : e.pageCount = slip.pageCount + 1 := by decide +kernel
  exact ⟨built_slip, hread, hcount, writeBlock_flows built_slip block hread⟩

end Document
end AccessReport
