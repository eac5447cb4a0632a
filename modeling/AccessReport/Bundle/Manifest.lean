import AccessReport.Bundle.Store
import AccessReport.Json.Position

/-!
Descriptions of reports in files: the subject, and what each service holds, with attachments in files
beside the description.
-/

namespace AccessReport

structure FileEntry where
  info : AttachmentInfo
  -- seen from the folder of the description
  path : String
deriving DecidableEq, Repr

structure ServiceEntry where
  name        : String
  label       : Option String := none
  content     : Option Content := none
  attachments : List FileEntry := []

structure Manifest where
  subject  : SubjectDetails
  services : List ServiceEntry := []

/-! ### Reading -/

namespace FileEntry

-- What was read of an entry: the path, and all that is not the path.
structure Draft where
  path   : Option String := none
  others : List (String × Json.Value) := []

def record : Json.Record Draft where
  name := "AttachmentEntry"
  fields := [
    Json.scalarField "path" (·.path) (fun d s => { d with path := some s })
      (Json.Token.stringAs? "path string") true true]
  blank := {}

-- Reads an entry. That the path is missing is noticed before any fault of the description.
def read (depth : Nat) (cs : List Char) : Except Json.Fault (Json.Read FileEntry) := do
  let collect (key : String) (v : Json.Value) (d : Draft) : Draft :=
    { d with others := d.others ++ [(key, v)] }
  let (d, rest) ← record.readCollecting collect depth cs
  match AttachmentInfo.ofEntries d.others with
  | .ok info => .ok (⟨info, d.path.getD ""⟩, rest)
  | .error cause => Json.fail cause rest

end FileEntry

namespace ServiceEntry

structure Draft where
  name        : Option String := none
  label       : Option (Option String) := none
  content     : Option (Option Content) := none
  attachments : Option (List FileEntry) := none

def Draft.entry (d : Draft) : ServiceEntry where
  name := d.name.getD ""
  label := d.label.join
  content := d.content.join
  attachments := d.attachments.getD []

def readContent (depth : Nat) (cs : List Char) :
    Except Json.Fault (Json.Read (Option Content)) := do
  let (v, rest) ← Json.anyValue depth cs
  match v with
  | .null => .ok (none, rest)
  | v => .ok (some (.ofJson v), rest)

def record : Json.Record Draft where
  name := "ServiceEntry"
  fields := [
    Json.scalarField "serviceName" (·.name) (fun d s => { d with name := some s })
      Json.Token.string? true true,
    Json.scalarField "businessLabel" (·.label) (fun d s => { d with label := some s })
      (Json.Token.option? Json.Token.string?) false true,
    { name := "content"
      isSet := (·.content.isSome)
      read := fun depth d cs => do
        let (c, rest) ← readContent depth cs
        .ok ({ d with content := some c }, rest)
      neededByName := false
      neededByRank := false },
    { name := "attachments"
      isSet := (·.attachments.isSome)
      read := fun depth d cs => do
        let (es, rest) ← Json.readSequence (FileEntry.read (depth - 1)) cs
        .ok ({ d with attachments := some es }, rest)
      neededByName := false
      neededByRank := false }]
  blank := {}

def read (depth : Nat) (cs : List Char) : Except Json.Fault (Json.Read ServiceEntry) := do
  let (d, rest) ← record.read depth cs
  .ok (d.entry, rest)

end ServiceEntry

namespace Manifest

structure Draft where
  subject  : Option SubjectDetails := none
  services : Option (List ServiceEntry) := none

def record : Json.Record Draft where
  name := "Manifest"
  fields := [
    { name := "subject"
      isSet := (·.subject.isSome)
      read := fun depth d cs => do
        let (s, rest) ← SubjectDetails.record.read depth cs
        .ok ({ d with subject := some s.details }, rest)
      neededByName := true
      neededByRank := true },
    { name := "services"
      isSet := (·.services.isSome)
      read := fun depth d cs => do
        let (es, rest) ← Json.readSequence (ServiceEntry.read (depth - 1)) cs
        .ok ({ d with services := some es }, rest)
      neededByName := false
      neededByRank := false }]
  blank := {}

def parse (cs : List Char) : Except Json.Fault Manifest := do
  let d ← Json.finish (record.read Json.depthLimit cs)
  .ok ⟨d.subject.getD { name := "", caseReference := "" }, d.services.getD []⟩

inductive Fault where
  | disk (fault : DiskFault)
  | json (fault : Json.Fault) (text : List Char)

def Fault.message : Fault → String
  | disk fault => fault.message
  | json fault text => fault.describe text

def load {m : Type → Type} [Monad m] (disk : Disk m) (path : String) :
    ExceptT Fault m Manifest := do
  let bytes ← (ExceptT.mk (disk.read path)).adapt Fault.disk
  match Json.readBytes parse bytes with
  | .ok manifest => return manifest
  | .error fault => throw (.json fault (Json.textOf bytes))

/-! ### The report that is described -/

variable {m : Type → Type} [Monad m]

-- The section for a service, and the store with the service's files. A service that is named before
-- has the attachments from there as well.
def sectionOf (disk : Disk m) (store : AttachmentStore) (e : ServiceEntry) :
    ExceptT Failure m (Section m × AttachmentStore) := do
  let store := e.attachments.foldl (fun s f => s.add e.name f.info f.path) store
  let attachments ← store.fetchAll disk e.name
  return ({
    service := e.name
    label := e.label.getD e.name
    content := e.content
    attachments := attachments }, store)

def sections (disk : Disk m) (store : AttachmentStore) : List ServiceEntry →
    ExceptT Failure m (List (Section m))
  | [] => return []
  | e :: es => do
    let (s, store) ← sectionOf disk store e
    let ss ← sections disk store es
    return s :: ss

-- The described report, with the files seen from a folder. All files must be there.
def request (disk : Disk m) (folder : String) (manifest : Manifest) :
    ExceptT Failure m (Request m) := do
  let sections ← sections disk ⟨folder, []⟩ manifest.services
  return ⟨manifest.subject, sections⟩

end Manifest
end AccessReport
