import AccessReport.Attachment.Info
import AccessReport.Report.Subject
import AccessReport.Proofs.RecordTexts
import AccessReport.Proofs.Spelling

namespace AccessReport

/-! ### Dates -/

namespace Calendar

open Decimal

variable {y : Int} {items : List Item} {p : Parts} {rest : List Char}

theorem Date.year_range (d : Date) : minYear ≤ d.year ∧ d.year ≤ maxYear := by
  have h := d.exists_day
  simp only [isDay, Bool.and_eq_true, decide_eq_true_eq] at h
  omega

-- The digits behind a sign are read up to the next character that is none.
theorem readNumber_padded (width n : Nat) (hrest : ∀ c ∈ rest.head?, isDigit c = false) :
    readNumber (padded width n ++ rest).length (padded width n ++ rest) = .ok (n, rest) :=
  readNumber_eq_ok_iff.2 ⟨padded width n, ⟨isNumeral_padded width n, by simp, .inr hrest⟩, rfl,
    (ofDigits_padded width n).symm⟩

-- Each year that dates have is read as it is written, with its sign if there is one.
theorem readYear_yearChars (hy : minYear ≤ y ∧ y ≤ maxYear)
    (hrest : ∀ c ∈ rest.head?, isDigit c = false) :
    readYear (yearChars y ++ rest) = .ok (y, rest) := by
  have hlimit : signedYearLimit = 2147483647 := by decide
  have hnumber := readNumber_padded 4 y.natAbs hrest
  unfold minYear maxYear at hy
  unfold yearChars
  split
  case isTrue hfour =>
    simp only [Bool.and_eq_true, decide_eq_true_eq] at hfour
    rw [readYear_of_leads (leads_padded (by decide) (by omega)), ofDigits_padded,
      Int.natAbs_of_nonneg hfour.1]
  case isFalse =>
    rw [List.cons_append]
    split
    case isTrue hneg =>
      have hlarge : ¬ signedYearLimit + 1 < y.natAbs := by omega
      have habs : -(y.natAbs : Int) = y := by omega
      simp only [readYear, hnumber, bind, Except.bind, if_neg hlarge, habs]
    case isFalse hpos =>
      have hlarge : ¬ signedYearLimit < y.natAbs := by omega
      have habs : (y.natAbs : Int) = y := by omega
      simp only [readYear, hnumber, bind, Except.bind, if_neg hlarge, habs]

theorem trimStart_yearChars (y : Int) (cs : List Char) :
    Text.trimStart (yearChars y ++ cs) = yearChars y ++ cs := by
  unfold yearChars
  split
  case isTrue => exact trimStart_padded ..
  case isFalse =>
    refine Text.trimStart_cons _ ?_
    split <;> decide

theorem fit_yearChars (d : Date) (hrest : ∀ c ∈ rest.head?, isDigit c = false) :
    fit (.number .year :: items) p (yearChars d.year ++ rest) =
      fit items { p with year := d.year } rest := by
  have hread := readYear_yearChars d.year_range hrest
  rw [← trimStart_yearChars] at hread
  exact fit_of_readItem <| readItem_year_eq_ok_iff.2 ⟨d.year, hread, rfl⟩

theorem fit_blanks_hyphen (cs : List Char) :
    fit (.blanks :: .literal '-' :: items) p ('-' :: cs) = fit items p cs := by
  rw [fit_blanks, Text.trimStart_cons cs (by decide), fit_literal]

theorem fit_dateItems (d : Date) : fit dateItems p d.text.toList = some (p.setDate d) := by
  have htext : d.text.toList =
      yearChars d.year ++ '-' :: (padded 2 d.month ++ '-' :: (padded 2 d.day ++ [])) := by
    simp [Date.text]
  rw [htext, dateItems, fit_yearChars d (by simp; decide), fit_blanks_hyphen, fit_month,
    fit_blanks_hyphen, fit_day, fit_blanks]
  rfl

-- Each date is read from its text.
theorem Date.read_text (d : Date) : Date.read d.text = .ok d := by
  have hdate : Parts.date (Parts.setDate {} d) = .ok d := by
    rw [Parts.date, Parts.setDate, Date.ofParts?_eq_some]
  rw [Date.read, fit_eq_some_iff.1 (fit_dateItems d)]
  exact hdate

example : Date.text ⟨-4, 2, 29, by decide⟩ = "-0004-02-29" := by decide +kernel

end Calendar

/-! ### Attachments -/

namespace AttachmentInfo

variable {i : AttachmentInfo}

def entries (i : AttachmentInfo) : List (String × Json.Value) := [
  ("attachmentNumber", .number (.natural i.number)),
  ("filename", .string i.filename),
  ("name", .string i.name),
  ("contentType", .string i.contentType)]

-- All fields, as they are once they were read.
def draft (i : AttachmentInfo) : Draft :=
  ⟨some i.number, some i.filename, some i.name, some i.contentType⟩

theorem readNumber_natural {n : Nat} (hn : n < 2 ^ 32) (hpos : 0 < n) :
    readNumber (.number (.natural n)) = .ok n := by
  have hword : Json.Token.word? (.number (.natural n)) = .ok n := if_pos hn
  rw [readNumber, hword]
  exact if_neg (Nat.ne_of_gt hpos)

theorem scalar_entries (hi : i.number < 2 ^ 32) : ∀ e ∈ i.entries, Json.Scalar e.2 := by
  have hmax : i.number ≤ Json.maxWord := Nat.le_trans (Nat.le_of_lt hi) (by decide)
  simp only [entries, List.forall_mem_cons]
  exact ⟨.natural hmax, .string _, .string _, .string _, List.forall_mem_nil _⟩

theorem fills_draft (hi : i.number < 2 ^ 32) (hpos : 0 < i.number) :
    record.Fills record.blank i.entries i.draft := by
  have hscalar := scalar_entries hi
  refine .cons (.scalarField (hscalar _ (.head _)) rfl rfl (readNumber_natural hi hpos)) ?_
  refine .cons (.scalarField (.string _) rfl rfl rfl) ?_
  refine .cons (.scalarField (.string _) rfl rfl rfl) ?_
  exact .cons (.scalarField (.string _) rfl rfl rfl) (.nil _)

theorem parse_toJson {write : Json.Value → String} (hwrite : Json.Writer write)
    (hi : i.number < 2 ^ 32) (hpos : 0 < i.number) : parse (write i.toJson) = .ok i := by
  have hread := (fills_draft hi hpos).read_written hwrite rfl (by simp [entries]) Json.depthLimit
  rw [parse, toJson, ← entries, hread]
  rfl

theorem parse_toJson_zero {write : Json.Value → String} (hwrite : Json.Writer write)
    (hzero : i.number = 0) : ∃ unread, parse (write i.toJson) = .error
      ⟨.invalidValue (.number (.natural 0)) "a positive attachment number", unread⟩ := by
  have hnumber : readNumber (.number (.natural i.number)) =
      .error (.invalidValue (.number (.natural 0)) "a positive attachment number") := by
    rw [hzero]
    rfl
  obtain ⟨unread, hread⟩ := Json.Record.read_written_of_refused (r := record) hwrite
    (scalar_entries (i := i) (by omega)) rfl rfl hnumber Json.depthLimit
  refine ⟨unread, ?_⟩
  rw [parse, toJson, hread]
  rfl

end AttachmentInfo

/-! ### Subjects -/

namespace SubjectDetails

variable {s : SubjectDetails}

def entries (s : SubjectDetails) : List (String × Json.Value) := [
  ("name", .string s.name),
  ("nomisId", textOrNull s.nomisId),
  ("ndeliusId", textOrNull s.ndeliusId),
  ("sarCaseReference", .string s.caseReference),
  ("dateFrom", dateOrNull s.dateFrom),
  ("dateTo", dateOrNull s.dateTo)]

def draft (s : SubjectDetails) : Draft :=
  ⟨some s.name, some s.nomisId, some s.ndeliusId, some s.caseReference, some s.dateFrom,
    some s.dateTo⟩

theorem scalar_textOrNull (s : Option String) : Json.Scalar (textOrNull s) := by
  cases s with
  | none => exact .null
  | some s => exact .string s

theorem option?_textOrNull (s : Option String) :
    Json.Token.option? Json.Token.string? (.ofValue (textOrNull s)) = .ok s := by
  cases s <;> rfl

theorem readDate_text (d : Calendar.Date) : readDate (.string d.text) = .ok d := by
  rw [readDate, d.read_text]

theorem option?_dateOrNull (d : Option Calendar.Date) :
    Json.Token.option? readDate (.ofValue (dateOrNull d)) = .ok d := by
  cases d with
  | none => rfl
  | some d =>
    change (readDate (.string d.text)).map some = .ok (some d)
    rw [readDate_text]
    rfl

theorem fills_draft (s : SubjectDetails) : record.Fills record.blank s.entries s.draft := by
  refine .cons (.scalarField (.string _) rfl rfl rfl) ?_
  refine .cons (.scalarField (scalar_textOrNull _) rfl rfl (option?_textOrNull _)) ?_
  refine .cons (.scalarField (scalar_textOrNull _) rfl rfl (option?_textOrNull _)) ?_
  refine .cons (.scalarField (.string _) rfl rfl rfl) ?_
  refine .cons (.scalarField (scalar_textOrNull _) rfl rfl (option?_dateOrNull _)) ?_
  exact .cons (.scalarField (scalar_textOrNull _) rfl rfl (option?_dateOrNull _)) (.nil _)

theorem parse_toJson {write : Json.Value → String} (hwrite : Json.Writer write)
    (s : SubjectDetails) : parse (write s.toJson) = .ok s := by
  have hread := s.fills_draft.read_written hwrite rfl (by simp [entries]) Json.depthLimit
  rw [parse, toJson, ← entries, hread]
  rfl

end SubjectDetails

-- What is known about an attachment, whose number is a word, and about a subject is read as it was
-- written, and written again as the same text; without a number an attachment is never read.
theorem parse_written {write : Json.Value → String} (hwrite : Json.Writer write)
    (i : AttachmentInfo) (hi : i.number < 2 ^ 32) (s : SubjectDetails) :
    (0 < i.number → AttachmentInfo.parse (write i.toJson) = .ok i ∧
      (AttachmentInfo.parse (write i.toJson)).map (write ·.toJson) = .ok (write i.toJson)) ∧
    (i.number = 0 → ∃ unread, AttachmentInfo.parse (write i.toJson) = .error
      ⟨.invalidValue (.number (.natural 0)) "a positive attachment number", unread⟩) ∧
    SubjectDetails.parse (write s.toJson) = .ok s ∧
    (SubjectDetails.parse (write s.toJson)).map (write ·.toJson) = .ok (write s.toJson) := by
  have hsubject := s.parse_toJson hwrite
  refine ⟨fun hpos => ?_, AttachmentInfo.parse_toJson_zero hwrite, hsubject, ?_⟩
  · have hinfo := AttachmentInfo.parse_toJson hwrite hi hpos
    refine ⟨hinfo, ?_⟩
    rw [hinfo]
    rfl
  · rw [hsubject]
    rfl

-- A leap day before the first year, and texts with characters of all kinds.
theorem parse_written_leap :
    let i : AttachmentInfo := ⟨4294967295, "a\"b\\c/.png", "\x00\x1f\n\u20ac", ""⟩
    let s : SubjectDetails := {
      name := "\x7f\u2028"
      nomisId := some "null"
      caseReference := "\t"
      dateFrom := some ⟨-4, 2, 29, by decide⟩
      dateTo := some ⟨12345, 12, 31, by decide⟩ }
    Json.Writer Json.pretty ∧ i.number < 2 ^ 32 ∧
      AttachmentInfo.parse (Json.pretty i.toJson) = .ok i ∧
      SubjectDetails.parse (Json.pretty s.toJson) = .ok s := by
  intro i s
  have hi : i.number < 2 ^ 32 := by decide
  obtain ⟨hinfo, -, hsubject, -⟩ := parse_written .pretty i hi s
  exact ⟨.pretty, hi, (hinfo (by decide)).1, hsubject⟩

end AccessReport
