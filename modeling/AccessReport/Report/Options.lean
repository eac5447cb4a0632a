import AccessReport.Calendar.Date
import AccessReport.Report.PageSize

/-!
How a report is laid out.
-/

namespace AccessReport

open Coordinate

variable {α : Type}

structure Options (α : Type) where
  pageSize        : PageSize α
  -- on all four sides
  margin          : α
  fontSize        : α
  headingFontSize : α
  titleFontSize   : α
  -- the height of a line over the size of its font
  lineSpacing     : α
  -- the largest share of a page that a picture may take on either axis
  imageProportion : α
  compress        : Bool
  -- printed on the covers
  reportDate      : Calendar.Date

namespace Options

variable [Coordinate α]

-- A decimal such as `1.4`, given in tenths.
def tenths (n : Nat) : α :=
  ofDecimal false ⟨n, -1⟩

def ofDate (reportDate : Calendar.Date) : Options α where
  pageSize := .a4
  margin := ofInt 50
  fontSize := ofInt 10
  headingFontSize := ofInt 14
  titleFontSize := ofInt 20
  lineSpacing := tenths 14
  imageProportion := ofDecimal false ⟨75, -2⟩
  compress := true
  reportDate := reportDate

def leastFontSize : α := ofInt 4
def largestFontSize : α := ofInt 72

def withPageSize (o : Options α) (size : PageSize α) : Options α :=
  { o with pageSize := size }

def withMargin (o : Options α) (margin : α) : Options α :=
  { o with margin := larger margin zero }

def withFontSize (o : Options α) (size : α) : Options α :=
  { o with fontSize := clamp leastFontSize largestFontSize size }

def withHeadingFontSize (o : Options α) (size : α) : Options α :=
  { o with headingFontSize := clamp leastFontSize largestFontSize size }

def withLineSpacing (o : Options α) (spacing : α) : Options α :=
  { o with lineSpacing := clamp one (ofInt 3) spacing }

def withImageProportion (o : Options α) (proportion : α) : Options α :=
  { o with imageProportion := clamp (tenths 1) one proportion }

def withCompression (o : Options α) (compress : Bool) : Options α :=
  { o with compress := compress }

def withReportDate (o : Options α) (date : Calendar.Date) : Options α :=
  { o with reportDate := date }

def page (o : Options α) : Dimensions α :=
  o.pageSize.dimensions

-- What the margins leave of the width of a page.
def textWidth (o : Options α) : α :=
  o.page.width - two * o.margin

inductive Fault (α : Type) where
  | page (d : Dimensions α)
  | margin (margin : α)

def Fault.message : Fault α → String
  | page d => "page size " ++ text d.width ++ "x" ++ text d.height ++ " is not positive"
  | margin m => "margin " ++ text m ++ " leaves no room for text"

-- The page must be wider than a character and higher than a line once the margins are taken.
def validate (o : Options α) : Except (Fault α) Unit :=
  if !o.page.isValid then
    .error (.page o.page)
  else if o.textWidth ≤ o.fontSize ||
      o.page.height - two * o.margin ≤ o.fontSize * o.lineSpacing then
    .error (.margin o.margin)
  else
    .ok ()

end Options
end AccessReport
