import AccessReport.Attachment.Info
import AccessReport.Bytes
import AccessReport.Content.Tree
import AccessReport.Report.Subject

/-!
What a report is made of: the subject, and one section for each service.
-/

namespace AccessReport

-- A file that a service holds. Its bytes are read when it is shown; a failed read has a detail.
structure Attachment (m : Type → Type) where
  info : AttachmentInfo
  read : m (Except String Bytes)

structure Section (m : Type → Type) where
  -- the name under which templates are registered
  service     : String
  -- the heading in the report, and the text of its row in the contents
  label       : String
  content     : Option Content := none
  attachments : List (Attachment m) := []

-- The sections appear in the report in their order.
structure Request (m : Type → Type) where
  subject  : SubjectDetails
  sections : List (Section m) := []

def Attachment.ofBytes {m : Type → Type} [Monad m] (info : AttachmentInfo) (bytes : Bytes) :
    Attachment m :=
  ⟨info, pure (.ok bytes)⟩

-- A section without content and attachments.
def Section.ofLabel {m : Type → Type} (service label : String) : Section m where
  service := service
  label := label

end AccessReport
