import AccessReport.Proofs.Pagination

namespace AccessReport

open Coordinate Pdf

namespace Assembler

variable {σ α : Type} [Coordinate α] {a : Assembler (StateM σ) α} {r : Request (StateM σ)}
  {report : Report α} {runs : List (List (List (Sheet α)))} {w w' : σ}

-- The topmost line of a page in the style of headings.
def topLine (a : Assembler (StateM σ) α) (line : List Char) : Shown α :=
  Document.lineShown a.options .heading a.options.margin
    (a.options.top - a.options.headingFontSize) line

theorem headed_eq {text : String} {line : List Char} {rest : List (List Char)}
    (h : a.options.lines .heading text.toList = line :: rest) :
    a.headed text = (((Document.empty a.options).startNewPage.placeLine .heading a.options.margin
      line).1).placeLines .heading (fun o _ => o.margin) rest := by
  rw [headed, Document.writeHeading, Document.writeStyled_eq, Document.layout_startNewPage,
    Document.empty, h]
  rfl

theorem sheets_topLine (line : List Char) :
    ((Document.empty a.options).startNewPage.placeLine .heading a.options.margin line).1.sheets =
      [⟨some (Document.mediaBox a.options.page), [a.topLine line]⟩] :=
  rfl

-- The first line of a heading is at the top of the first page of its section.
theorem ShowsSection.head {s : Section (StateM σ)} {run : List (List (Sheet α))}
    (h : a.ShowsSection w s run w') :
    ∃ line rest sheet sheets, a.options.lines .heading s.label.toList = line :: rest ∧
      run.flatten = sheet :: sheets ∧ sheet.shown.head? = some (a.topLine line) := by
  obtain ⟨block, _, shows, -, rfl, -, -, rfl⟩ := h
  have hne : a.options.lines .heading s.label.toList ≠ [] := Document.lines_ne_nil _ _
  obtain ⟨line, rest, hl⟩ := List.exists_cons_of_ne_nil hne
  have hd : ((Document.empty a.options).startNewPage.placeLine .heading a.options.margin
      line).1.Sound :=
    (Document.sound_empty _).startNewPage.placeLine ..
  have hc := ((hd.continues_placeLines .heading (fun o _ => o.margin) rest).trans <|
    (hd.placeLines ..).continues_writeBlock block).sheets
  rw [← headed_eq hl, sheets_topLine] at hc
  generalize ((a.headed s.label).writeBlock block).sheets = own at hc
  cases hc with
  | cons _ hshown _ =>
    obtain ⟨more, hmore⟩ := hshown
    exact ⟨line, rest, _, _, hl, rfl, hmore ▸ rfl⟩

-- The sections start one behind the other.
theorem getElem?_rowsFrom {sections : List (Section (StateM σ))} {n i : Nat}
    {s : Section (StateM σ)} (hs : sections[i]? = some s) (hi : i < runs.length) :
    (a.rowsFrom n sections runs)[i]? = some ⟨s.label,
      n + ((runs.take i).flatMap List.flatten).length + (a.headed s.label).pageCount - 1⟩ := by
  induction sections generalizing n i runs with
  | nil => cases hs
  | cons s' sections ih =>
    cases runs with
    | nil => cases hi
    | cons run runs =>
      cases i with
      | zero =>
        cases hs
        simp [rowsFrom]
      | succ i =>
        simp only [List.getElem?_cons_succ] at hs
        simp only [rowsFrom, List.getElem?_cons_succ, ih hs (Nat.lt_of_succ_lt_succ hi),
          List.take_succ_cons, List.flatMap_cons, List.length_append, ← Nat.add_assoc]

-- The rows side by side with the sections, their numbers counted from another one.
theorem flatMap_rowsFrom {β : Type} (f : String → Nat → List β) {n first : Nat}
    {sections : List (Section (StateM σ))} (h : sections.length = runs.length) :
    (a.rowsFrom n sections runs).flatMap (fun row => f row.label (first + row.page)) =
      (List.zipWith (fun s number => f s.label number) sections
        ((a.rowsFrom n sections runs).map (first + ·.page))).flatten := by
  induction sections generalizing n runs with
  | nil => rfl
  | cons s sections ih =>
    cases runs with
    | nil => cases h
    | cons run runs => simp [rowsFrom, ih (Nat.succ.inj h)]

omit [Coordinate α] in
theorem flatMap_flatten_eq {i : Nat} {run : List (List (Sheet α))} (h : runs[i]? = some run) :
    runs.flatMap List.flatten = (runs.take i).flatMap List.flatten ++ run.flatten ++
      (runs.drop (i + 1)).flatMap List.flatten := by
  obtain ⟨hi, rfl⟩ := List.getElem?_eq_some_iff.1 h
  rw [List.append_assoc, ← List.flatMap_cons, ← List.flatMap_append, ← List.drop_eq_getElem_cons hi,
    List.take_append_drop]

-- Where a section starts behind the external cover.
theorem Assembled.getElem?_start (h : a.Assembled w r report runs w') {i : Nat}
    {run : List (List (Sheet α))} {sheet : Sheet α} {sheets : List (Sheet α)}
    (hrun : runs[i]? = some run) (hsheet : run.flatten = sheet :: sheets) :
    (report.sheets.drop (Document.externalCover a.options r.subject).pageCount)[
      (Document.internalCover a.options r.subject report.totalPages).pageCount +
        report.contentsPages + ((runs.take i).flatMap List.flatten).length]? = some sheet := by
  have hsheets :
      report.sheets.drop (Document.externalCover a.options r.subject).pageCount =
        ((Document.internalCover a.options r.subject report.totalPages).sheets ++
          (a.printedContents report (a.rowsFrom 0 r.sections runs)).sheets ++
          (runs.take i).flatMap List.flatten) ++ sheet ::
          (sheets ++ (runs.drop (i + 1)).flatMap List.flatten ++ (a.rear r.subject).sheets) := by
    rw [h.reportSheets, flatMap_flatten_eq hrun, hsheet]
    simp [frontMatter, ← Document.length_sheets]
  rw [hsheets, h.contents, ← Document.length_sheets, ← Document.length_sheets,
    ← List.length_append, ← List.length_append, List.getElem?_append_right (Nat.le_refl _),
    Nat.sub_self, List.getElem?_cons_zero]

-- The number in a row of the contents is that of the page on which the heading of the section
-- ends, which is the one on which it starts just if the heading takes one page.
theorem assemble_numbers (h : Yields (a.assemble r) w report w')
    (hinternal :
      (Document.internalCover a.options r.subject report.totalPages).pageCount = 1) :
    let external := Document.externalCover a.options r.subject
    ∃ runs numbers, ∃ contents : Document α, Threaded a.ShowsSection w r.sections runs w' ∧
      report.sheets = external.sheets ++
        (Document.internalCover a.options r.subject report.totalPages).sheets ++
        contents.sheets ++ runs.flatMap List.flatten ++ (a.rear r.subject).sheets ∧
      contents.texts = (Document.contentsHead a.options).texts ++
        (List.zipWith (fun s number => Document.rowTexts a.options s.label (natText number))
          r.sections numbers).flatten ∧
      ∀ i s, r.sections[i]? = some s → ∃ start number line rest sheet,
        start = 1 + contents.pageCount + ((runs.take i).flatMap List.flatten).length ∧
        numbers[i]? = some number ∧
        a.options.lines .heading s.label.toList = line :: rest ∧
        (report.sheets.drop external.pageCount)[start]? = some sheet ∧
        sheet.shown.head? = some (a.topLine line) ∧
        number = start + (a.headed s.label).pageCount ∧
        (number = start + 1 ↔ (a.headed s.label).pageCount = 1) := by
  intro external
  have ⟨_, runs, ha⟩ := assemble_yields h
  have hlength := ha.sections.length_eq
  refine ⟨runs, (a.rowsFrom 0 r.sections runs).map (1 + report.contentsPages + 1 + ·.page),
    a.printedContents report (a.rowsFrom 0 r.sections runs), ha.sections, ?sheets, ?texts,
    fun i s hs => ?row⟩
  case sheets =>
    rw [ha.reportSheets]
    simp [frontMatter, external]
  case texts =>
    rw [printedContents, Document.texts_contents]
    congr 1
    exact flatMap_rowsFrom (fun label number => Document.rowTexts a.options label (natText number))
      hlength
  case row =>
    obtain ⟨run, w₁, w₂, hrun, hshows⟩ := ha.sections.getElem? hs
    obtain ⟨line, rest, sheet, sheets, hl, hsheet, htop⟩ := hshows.head
    have hi : i < runs.length := (List.getElem?_eq_some_iff.1 hrun).1
    have hstart := ha.getElem?_start hrun hsheet
    rw [hinternal] at hstart
    have hheaded : 0 < (a.headed s.label).pageCount := Document.started_writeHeading.pos
    refine ⟨_, 1 + report.contentsPages + ((runs.take i).flatMap List.flatten).length +
      (a.headed s.label).pageCount, line, rest, sheet, rfl, ?number, hl, ha.contents ▸ hstart, htop,
      ?eq, ?iff⟩
    case number =>
      rw [List.getElem?_map, getElem?_rowsFrom hs hi, Option.map_some, Option.some.injEq]
      dsimp only
      omega
    case eq => rw [ha.contents]
    case iff =>
      rw [ha.contents]
      omega

theorem assemble_numbers_sample : ∃ report runs numbers, ∃ contents : Document Float32,
    Yields (sample.assemble sampleRequest) () report () ∧
      Threaded sample.ShowsSection () sampleRequest.sections runs () ∧
      contents.texts = (Document.contentsHead sample.options).texts ++
        (List.zipWith (fun s number => Document.rowTexts sample.options s.label (natText number))
          sampleRequest.sections numbers).flatten ∧
      numbers[0]? = some (1 + contents.pageCount + 1) := by
  have ⟨report, h, hone⟩ := Yields.exists_of_any (x := sample.assemble sampleRequest)
    (p := fun report =>
      (Document.internalCover sample.options sampleRequest.subject report.totalPages).pageCount = 1)
    (by decide +kernel)
  have ⟨runs, numbers, contents, hr, _, ht, hrows⟩ :=
    assemble_numbers h (of_decide_eq_true hone)
  have hheaded : ∀ s ∈ sampleRequest.sections, (sample.headed s.label).pageCount = 1 := by
    decide +kernel
  obtain ⟨start, number, _, _, _, hstart, hnumber, _, _, _, _, hfirst⟩ := hrows 0 _ rfl
  have hn := hfirst.2 <| hheaded _ (.head _)
  exact ⟨report, runs, numbers, contents, h, hr, ht, by simpa [hn, hstart] using hnumber⟩

end Assembler
end AccessReport
