import AccessReport.Report.Options
import AccessReport.Text.Measure
import AccessReport.Text.Wrap

/-!
Text styles, and where lines of text go on a page.
-/

namespace AccessReport

open Coordinate

inductive Style where
  | body
  -- bold
  | heading
  -- bold and large
  | title
deriving DecidableEq, Repr

namespace Options

variable {α : Type} [Coordinate α]

def regularFont : String := "F1"
def boldFont : String := "F2"

def fontOf : Style → String
  | .body => regularFont
  | .heading | .title => boldFont

def size (o : Options α) : Style → α
  | .body => o.fontSize
  | .heading => o.headingFontSize
  | .title => o.titleFontSize

def lineHeight (o : Options α) (style : Style) : α :=
  o.size style * o.lineSpacing

def top (o : Options α) : α :=
  o.page.height - o.margin

-- The lines of a text that is set between the margins.
def lines (o : Options α) (style : Style) (text : List Char) : List (List Char) :=
  Wrap.wrap text (Measure.charsPerLine o.textWidth (o.size style))

-- Where a line starts that is centred between the edges of the page; it does not start left of the
-- margin.
def centered (o : Options α) (style : Style) (line : List Char) : α :=
  larger ((o.page.width - Measure.width line (o.size style)) / two) o.margin

-- The right column of a row has room for so many characters at least.
def rightColumnChars : Nat :=
  6

-- The lines of the left text of a row; what the right text says does not matter while it fits into
-- the least width of its column.
def rowLines (o : Options α) (style : Style) (left right : List Char) : List (List Char) :=
  let size := o.size style
  let reserved := larger (Measure.width right size)
    (Measure.width ['0'] size * ofInt rightColumnChars)
  let width := larger (o.textWidth - reserved - size * two) size
  Wrap.wrap left (Measure.charsPerLine width size)

-- Where the right text of a row starts.
def rightColumn (o : Options α) (style : Style) (right : List Char) : α :=
  o.page.width - o.margin - Measure.width right (o.size style)

end Options
end AccessReport
