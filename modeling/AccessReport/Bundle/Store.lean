import AccessReport.Bundle.Disk
import AccessReport.Failure
import AccessReport.Report.Request

/-!
Attachments that are files in a folder, by the services that they belong to.
-/

namespace AccessReport

def DiskFault.failure (fault : DiskFault) : Failure :=
  .io fault.message

-- An attachment and its file, seen from the store's folder.
structure StoredFile where
  service : String
  info    : AttachmentInfo
  path    : String
deriving DecidableEq, Repr

structure AttachmentStore where
  folder : String
  -- in the order in which they were added
  files  : List StoredFile := []

namespace AttachmentStore

def add (s : AttachmentStore) (service : String) (info : AttachmentInfo) (path : String) :
    AttachmentStore :=
  { s with files := s.files ++ [⟨service, info, path⟩] }

def ofService (s : AttachmentStore) (service : String) : List StoredFile :=
  s.files.filter (·.service = service)

def list (s : AttachmentStore) (service : String) : List AttachmentInfo :=
  (s.ofService service).map (·.info)

-- The first file of a service with a description.
def path? (s : AttachmentStore) (service : String) (info : AttachmentInfo) : Option String :=
  ((s.ofService service).find? (·.info = info)).map fun f => Path.join s.folder f.path

def notListed (service : String) (info : AttachmentInfo) : Failure :=
  .other ("attachment " ++ natText info.number ++ " not listed for service " ++ service)

variable {m : Type → Type} [Monad m]

def attachment (disk : Disk m) (info : AttachmentInfo) (path : String) : Attachment m where
  info := info
  read := do
    let content ← disk.read path
    return content.mapError (·.message)

-- An attachment of a service. Its file must be there, but is read later.
def fetch (s : AttachmentStore) (disk : Disk m) (service : String) (info : AttachmentInfo) :
    ExceptT Failure m (Attachment m) := do
  match s.path? service info with
  | none => throw (notListed service info)
  | some path =>
    let _ ← (ExceptT.mk (disk.look path)).adapt DiskFault.failure
    return attachment disk info path

def fetchAll (s : AttachmentStore) (disk : Disk m) (service : String) :
    ExceptT Failure m (List (Attachment m)) :=
  (s.list service).mapM (s.fetch disk service)

end AttachmentStore
end AccessReport
