import AccessReport.Json.Printer
import AccessReport.Json.Record

/-!
What is known about an attachment apart from its bytes.
-/

namespace AccessReport

structure AttachmentInfo where
  -- counted from one
  number      : Nat
  filename    : String
  name        : String
  contentType : String
deriving DecidableEq, Repr, Inhabited

namespace AttachmentInfo

def hasValidNumber (i : AttachmentInfo) : Bool :=
  0 < i.number

def heading (i : AttachmentInfo) : String :=
  "Attachment " ++ natText i.number ++ ": " ++ i.name ++ " (" ++ i.filename ++ ")"

def toJson (i : AttachmentInfo) : Json.Value :=
  .object [
    ("attachmentNumber", .number (.natural i.number)),
    ("filename", .string i.filename),
    ("name", .string i.name),
    ("contentType", .string i.contentType)]

-- Attachment numbers that are read are positive.
def readNumber (t : Json.Token) : Except Json.Cause Nat := do
  let n ← t.word?
  if n = 0 then .error (.invalidValue (.number (.natural 0)) "a positive attachment number")
  else .ok n

structure Draft where
  number      : Option Nat := none
  filename    : Option String := none
  name        : Option String := none
  contentType : Option String := none

def Draft.info (d : Draft) : AttachmentInfo :=
  ⟨d.number.getD 0, d.filename.getD "", d.name.getD "", d.contentType.getD ""⟩

def record : Json.Record Draft where
  name := "AttachmentInfo"
  fields := [
    Json.scalarField "attachmentNumber" (·.number) (fun d n => { d with number := some n })
      readNumber true true,
    Json.scalarField "filename" (·.filename) (fun d s => { d with filename := some s })
      Json.Token.string? true true,
    Json.scalarField "name" (·.name) (fun d s => { d with name := some s })
      Json.Token.string? true true,
    Json.scalarField "contentType" (·.contentType) (fun d s => { d with contentType := some s })
      Json.Token.string? true true]
  blank := {}

def parse (s : String) : Except Json.Fault AttachmentInfo :=
  (Json.finish (record.read Json.depthLimit s.toList)).map (·.info)

-- Takes one entry of an object into account; keys that are no fields mean nothing here.
def Draft.put (d : Draft) (key : String) (v : Json.Value) : Except Json.Cause Draft :=
  let t := Json.Token.ofValue v
  let once {α} (old : Option α) (set : Except Json.Cause Draft) : Except Json.Cause Draft :=
    if old.isSome then .error (.duplicateField key) else set
  if key = "attachmentNumber" then
    once d.number ((readNumber t).map fun n => { d with number := some n })
  else if key = "filename" then
    once d.filename (t.string?.map fun s => { d with filename := some s })
  else if key = "name" then
    once d.name (t.string?.map fun s => { d with name := some s })
  else if key = "contentType" then
    once d.contentType (t.string?.map fun s => { d with contentType := some s })
  else .ok d

def ofEntries (entries : List (String × Json.Value)) : Except Json.Cause AttachmentInfo := do
  let d ← entries.foldlM (fun d (k, v) => d.put k v) ({} : Draft)
  match record.missing? d with
  | some cause => .error cause
  | none => .ok d.info

end AttachmentInfo
end AccessReport
