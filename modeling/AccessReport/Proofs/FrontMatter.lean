import AccessReport.Proofs.Writing

namespace AccessReport
namespace Document

open Coordinate Pdf

variable {α : Type} [Coordinate α] {d : Document α}

namespace Sound

theorem writeRow (h : d.Sound) (style : Style) (left right : String) :
    (d.writeRow style left right).Sound :=
  ((Beside.refl h).writeRow style left right).left

theorem writeLines (h : d.Sound) (lines : List String) : (d.writeLines lines).Sound :=
  ((Beside.refl h).writeLines lines).left

theorem writeCentered (h : d.Sound) (style : Style) (text : String) :
    (d.writeCentered style text).Sound :=
  ((Beside.refl h).writeCentered style text).left

theorem addSpace (h : d.Sound) (n : α) : (d.addSpace n).Sound :=
  ((Beside.refl h).addSpace n).left

theorem texts_writeLines (h : d.Sound) (lines : List String) :
    (d.writeLines lines).texts = d.texts ++
      (lines.flatMap fun line => d.layout.lines .body line.toList).map WinAnsi.encode := by
  unfold Document.writeLines
  induction lines generalizing d with
  | nil => simp
  | cons line lines ih =>
    have hl : (d.writeLine line).Sound := h.writeStyled ..
    rw [List.foldl_cons, ih hl, layout_writeLine, writeLine, h.texts_writeStyled]
    simp

end Sound

@[simp]
theorem layout_addSpace {n : α} : (d.addSpace n).layout = d.layout :=
  rfl

@[simp]
theorem layout_writeCentered {style : Style} {text : String} :
    (d.writeCentered style text).layout = d.layout := by
  rw [writeCentered_eq, layout_placeLines]

theorem sound_externalCover (layout : Options α) (subject : SubjectDetails) :
    (externalCover layout subject).Sound :=
  ((((sound_empty layout).addSpace _).writeCentered ..).addSpace _).writeLines _

theorem sound_internalCover (layout : Options α) (subject : SubjectDetails) (pages : Nat) :
    (internalCover layout subject pages).Sound :=
  (((((sound_empty layout).addSpace _).writeCentered ..).writeCentered ..).addSpace _).writeLines _

-- The number of pages is what the internal cover ends with.
theorem totalPages_suffix (layout : Options α) (subject : SubjectDetails) (pages : Nat) :
    (layout.lines .body (totalPagesLine pages).toList).map WinAnsi.encode <:+
      (internalCover layout subject pages).texts := by
  have hd := ((((sound_empty layout).addSpace (ofInt 4)).writeCentered .title
    internalMarking).writeCentered .heading reportTitle).addSpace (ofInt 2)
  rw [internalCover, hd.texts_writeLines]
  simp only [layout_addSpace, layout_writeCentered, List.flatMap_append, List.flatMap_cons,
    List.flatMap_nil, List.append_nil, List.map_append, ← List.append_assoc]
  exact List.suffix_append _ _

-- The contents before their first row.
def contentsHead (layout : Options α) : Document α :=
  (((empty layout).writeHeading "Contents").writeLine internalMarking).addSpace one

theorem contents_eq (layout : Options α) (firstPage : Option Nat) (rows : List ContentsRow) :
    contents layout firstPage rows = rows.foldl
      (fun d row => d.writeRow .body row.label (pageLabel firstPage row)) (contentsHead layout) :=
  rfl

theorem sound_contentsHead (layout : Options α) : (contentsHead layout).Sound :=
  (((sound_empty layout).writeStyled ..).writeStyled ..).addSpace _

theorem sound_contents (layout : Options α) (firstPage : Option Nat) (rows : List ContentsRow) :
    (contents layout firstPage rows).Sound := by
  rw [contents_eq]
  have hd := sound_contentsHead layout
  generalize contentsHead layout = d at hd
  induction rows generalizing d with
  | nil => exact hd
  | cons row rows ih => exact ih _ <| hd.writeRow ..

-- What a row says: its right text is beside the first line of the left one.
def rowTexts (layout : Options α) (left right : String) : List Bytes :=
  match layout.rowLines .body left.toList right.toList with
  | []            => []
  | first :: rest =>
    WinAnsi.encode first ::
      ((if right.isEmpty then [] else [WinAnsi.encode right.toList]) ++ rest.map WinAnsi.encode)

theorem filterMap_codes?_rightMarks {o : Options α} {style : Style} {y : α} {right : String} :
    (rightMarks o style y right).filterMap codes? =
      if right.isEmpty then [] else [WinAnsi.encode right.toList] := by
  unfold rightMarks
  split <;> simp [lineMark, codes?]

theorem Sound.texts_writeRow (h : d.Sound) (left right : String) :
    (d.writeRow .body left right).texts = d.texts ++ rowTexts d.layout left right := by
  rw [writeRow_eq, rowTexts]
  cases d.layout.rowLines .body left.toList right.toList with
  | nil => simp
  | cons first rest =>
    have hd := h.placeLine .body d.layout.margin first
    dsimp only
    rw [(hd.put plain_rightMarks _).texts_placeLines, texts_put, h.texts_placeLine,
      filterMap_codes?_rightMarks]
    simp

@[simp]
theorem layout_writeRow {style : Style} {left right : String} :
    (d.writeRow style left right).layout = d.layout := by
  rw [writeRow_eq]
  split <;> simp

theorem layout_contentsHead (layout : Options α) : (contentsHead layout).layout = layout := by
  simp [contentsHead, empty]

-- The contents say their rows one after the other.
theorem texts_contents (layout : Options α) (firstPage : Option Nat) (rows : List ContentsRow) :
    (contents layout firstPage rows).texts = (contentsHead layout).texts ++
      rows.flatMap fun row => rowTexts layout row.label (pageLabel firstPage row) := by
  rw [contents_eq]
  have hd := sound_contentsHead layout
  have hl := layout_contentsHead layout
  generalize contentsHead layout = d at hd hl
  induction rows generalizing d with
  | nil => simp
  | cons row rows ih =>
    rw [List.foldl_cons, ih _ (hd.writeRow ..) (layout_writeRow.trans hl), hd.texts_writeRow, hl]
    simp

omit [Coordinate α] in
theorem Started.pos (h : d.Started) : 0 < d.pageCount := by
  rw [h.pageCount]
  omega

theorem started_writeLines {lines : List String} (h : lines ≠ []) :
    (d.writeLines lines).Started := by
  obtain ⟨init, last, rfl⟩ := List.eq_nil_or_concat' lines |>.resolve_left h
  rw [writeLines, List.foldl_append]
  exact started_writeStyled

theorem started_externalCover (layout : Options α) (subject : SubjectDetails) :
    (externalCover layout subject).Started :=
  started_writeLines (by simp)

theorem started_internalCover (layout : Options α) (subject : SubjectDetails) (pages : Nat) :
    (internalCover layout subject pages).Started :=
  started_writeLines (by simp)

theorem started_writeRearPage (subject : SubjectDetails) : (d.writeRearPage subject).Started :=
  started_writeCentered

end Document
end AccessReport
