import AccessReport.Command.Session
import Std.Time

/-!
The program: commands that run on the files of this machine.
-/

namespace AccessReport

-- A fault by its code, which may be given as a negative number.
def DiskFault.ofCode (code : UInt32) (detail : String) : DiskFault :=
  match (min code (-code)).toNat with
  | 2 => .missing
  | 17 => .present
  | 20 => .notFolder
  | 21 => .isFolder
  | n => .other (detail ++ " (os error " ++ natText n ++ ")")

def DiskFault.ofError : IO.Error → DiskFault
  | .noFileOrDirectory _ code detail | .inappropriateType _ code detail
  | .alreadyExists _ code detail | .permissionDenied _ code detail
  | .resourceExhausted _ code detail | .invalidArgument _ code detail =>
    ofCode code detail
  | error => .other error.toString

def onFiles {β : Type} (action : IO β) : IO (Except DiskFault β) := do
  try
    return .ok (← action)
  catch error =>
    return .error (.ofError error)

def readFile (path : String) : IO (Except DiskFault Entry) := do
  match ← onFiles (IO.FS.readBinFile path) with
  | .ok content => return .ok (.file content.toList)
  | .error .isFolder => return .ok .folder
  | .error fault => return .error fault

def machineDisk : Disk IO where
  look := readFile
  write path bytes := onFiles (IO.FS.writeBinFile path ⟨bytes.toArray⟩)
  makeFolder path := if path.isEmpty then return .ok () else onFiles (IO.FS.createDirAll path)

def today : IO Calendar.Date := do
  let date ← Std.Time.PlainDate.now
  match Calendar.Date.ofParts? date.year.toInt date.month.val.toNat date.day.val.toNat with
  | some date => return date
  | none => throw (.userError "there is no date for today")

end AccessReport

open AccessReport

def main (args : List String) : IO UInt32 := do
  let url ← IO.getEnv "SARPDF_CONVERTER_URL"
  let timeout ← IO.getEnv "SARPDF_CONVERTER_TIMEOUT"
  let environment (name : String) : Option String :=
    [("SARPDF_CONVERTER_URL", url), ("SARPDF_CONVERTER_TIMEOUT", timeout)].lookup name |>.join
  let session : Session IO := ⟨machineDisk, ← today⟩
  let outcome ← session.answer environment args
  (← IO.getStdout).putStr outcome.output
  (← IO.getStderr).putStr outcome.errors
  return UInt32.ofNat outcome.exit
