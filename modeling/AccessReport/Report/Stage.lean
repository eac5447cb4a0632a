/-!
The stages of one assembly, in the only order in which they occur.
-/

namespace AccessReport

inductive Stage where
  | start
  -- sections, attachments and the rear page are rendered
  | contentRendered
  -- the number of pages is known
  | countKnown
  -- covers and contents are rendered
  | frontMatterBuilt
  -- all pages are in one document
  | merged
  -- the document is written
  | done
deriving DecidableEq, Repr

namespace Stage

def all : List Stage :=
  [start, contentRendered, countKnown, frontMatterBuilt, merged, done]

def text : Stage → String
  | start => "start"
  | contentRendered => "content rendered"
  | countKnown => "count known"
  | frontMatterBuilt => "front matter built"
  | merged => "merged"
  | done => "done"

def ofText? (s : String) : Option Stage :=
  all.find? (·.text = s)

def next? : Stage → Option Stage
  | start => some contentRendered
  | contentRendered => some countKnown
  | countKnown => some frontMatterBuilt
  | frontMatterBuilt => some merged
  | merged => some done
  | done => none

-- The stages that come before one.
def before (s : Stage) : List Stage :=
  all.takeWhile (· ≠ s)

end Stage
end AccessReport
