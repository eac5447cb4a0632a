import AccessReport.Bundle.Manifest
import AccessReport.Command.Arguments
import AccessReport.Report.Assembly

/-!
What the commands do on a day, with the files of a disk.
-/

namespace AccessReport

-- What a command leaves behind besides files.
structure Outcome where
  exit   : Nat := 0
  output : String := ""
  errors : String := ""
deriving DecidableEq, Repr

-- Why a command failed.
inductive Trouble where
  | options (fault : Options.Fault Float32)
  | disk (fault : DiskFault)
  | notText
  | json (fault : Json.Fault) (text : List Char)
  | manifest (path : String) (fault : Manifest.Fault)
  | report (failure : Failure)
  | reports (failed total : Nat)

def Trouble.message : Trouble → String
  | options fault => fault.message
  | disk fault => fault.message
  | notText => "stream did not contain valid UTF-8"
  | json fault text => fault.describe text
  | manifest path fault => path ++ ": " ++ fault.message
  | report failure => failure.message
  | reports failed total => natText failed ++ " of " ++ natText total ++ " reports failed"

namespace Outcome

def versionLine : String :=
  "sarpdf 0.3.0\n"

def version : Outcome where
  output := versionLine ++ "Subject Access Request report assembly tool\n\nLicense: MIT\n"

def addSummary (o : Outcome) (path : String) (r : Report Float32) : Outcome :=
  { o with output := o.output ++ "✓ " ++ path ++ " (" ++ natText r.pageCount ++ " pages: " ++
    natText r.contentPages ++ " content, " ++ natText r.contentsPages ++ " contents)\n" }

-- Says that one of several reports failed.
def addFailure (o : Outcome) (manifest : String) (f : Failure) : Outcome :=
  { o with errors := o.errors ++ "✗ " ++ manifest ++ ": " ++ f.message ++ "\n" }

def fail (o : Outcome) (t : Trouble) : Outcome :=
  { o with exit := 1, errors := o.errors ++ "Error: " ++ t.message ++ "\n" }

-- What is answered to a command line that names no command to run.
def ofUsage (u : Usage) : Outcome :=
  match u, u.problem? with
  | .version, _ => { output := versionLine }
  | _, none => { output := Usage.text }
  | _, some problem => { exit := 2, errors := "error: " ++ problem ++ "\n\n" ++ Usage.text }

end Outcome

-- A place for the file of a report, under the name of its manifest: beside it or in a folder.
def reportPath (manifest : String) (folder : Option String) : String :=
  let name := Path.stem manifest ++ ".pdf"
  match folder with
  | some folder => Path.join folder name
  | none => Path.withFileName manifest name

namespace LayoutArguments

-- The address to which documents are sent for conversion.
def endpoint (url : String) : String :=
  String.ofList (url.toList.reverse.dropWhile (· = '/')).reverse ++ "/forms/libreoffice/convert"

def unreachable {m : Type → Type} [Monad m] (url : String) : Converter m := fun _ filename =>
  return .error (.conversion
    (filename ++ ": error sending request for url (" ++ endpoint url ++ ")"))

def assembler {m : Type → Type} [Monad m] (l : LayoutArguments) (today : Calendar.Date) :
    Except Trouble (Assembler m Float32) := do
  let options := Options.ofDate today |>.withPageSize l.pageSize |>.withMargin l.margin
    |>.withCompression l.compress
  options.validate.mapError .options
  return { options := options, converter := l.converterUrl.map unreachable }

end LayoutArguments

-- Where and when commands run.
structure Session (m : Type → Type) where
  disk  : Disk m
  today : Calendar.Date

namespace Session

variable {m : Type → Type} [Monad m]

-- Loads the report that a manifest describes; its files are seen from the manifest's folder.
def load (s : Session m) (path : String) : ExceptT Trouble m (Request m) := do
  let manifest ← (Manifest.load s.disk path).adapt (.manifest path)
  (manifest.request s.disk ((Path.parent? path).getD ".")).adapt .report

def write (s : Session m) (path : String) (r : Report Float32) : ExceptT Trouble m Unit :=
  (ExceptT.mk (s.disk.write path r.bytes)).adapt .disk

def assemble (s : Session m) (manifest : String) (output : Option String) (l : LayoutArguments) :
    ExceptT Trouble m Outcome := do
  let a ← (l.assembler s.today : Except Trouble (Assembler m Float32))
  let request ← s.load manifest
  let report ← (a.assemble request).adapt .report
  let path := output.getD (reportPath manifest none)
  s.write path report
  return ({} : Outcome).addSummary path report

-- Writes the reports that did not fail, in the order of their manifests, until one cannot be
-- written, and counts those that failed.
def writeAll (s : Session m) (folder : String) (failed : Nat) (o : Outcome) :
    List (String × Except Failure (Report Float32)) → m (Outcome × Except Trouble Nat)
  | [] => return (o, .ok failed)
  | (manifest, .error f) :: results => s.writeAll folder (failed + 1) (o.addFailure manifest f) results
  | (manifest, .ok report) :: results => do
    let path := reportPath manifest (some folder)
    match ← (s.write path report).run with
    | .error t => return (o, .error t)
    | .ok () => s.writeAll folder failed (o.addSummary path report) results

-- Assembles several reports. All manifests are loaded first, and none may be bad.
def batch (s : Session m) (manifests : List String) (folder : String) (l : LayoutArguments) :
    ExceptT Trouble m Outcome := do
  let a ← (l.assembler s.today : Except Trouble (Assembler m Float32))
  (ExceptT.mk (s.disk.makeFolder folder)).adapt .disk
  let requests ← manifests.mapM s.load
  let results ← (a.assembleAll requests : m _)
  let (outcome, failed) ← (s.writeAll folder 0 {} (manifests.zip results) : m _)
  return match failed with
    | .error t => outcome.fail t
    | .ok 0 => outcome
    | .ok n => outcome.fail (.reports n manifests.length)

-- Shows content as it is listed in a report, or its normal form.
def preview (s : Session m) (input : String) (json : Bool) : ExceptT Trouble m Outcome := do
  let bytes ← (ExceptT.mk (s.disk.read input)).adapt .disk
  match Utf8.decode? bytes with
  | none => throw .notText
  | some text =>
    match Content.parse (String.ofList text) with
    | .error fault => throw (.json fault text)
    | .ok content =>
      let shown := if json then Json.pretty content.normalize.toJson else content.preview
      return { output := shown ++ "\n" }

def run (s : Session m) (c : Command) : m Outcome := do
  let result ← ExceptT.run <| match c with
    | .assemble manifest output l => s.assemble manifest output l
    | .batch manifests output l => s.batch manifests output l
    | .preview input json => s.preview input json
    | .version => return .version
  return match result with
    | .ok outcome => outcome
    | .error t => ({} : Outcome).fail t

def answer (s : Session m) (environment : String → Option String) (args : List String) :
    m Outcome :=
  match Arguments.parse environment args with
  | .ok command => s.run command
  | .error usage => return .ofUsage usage

end Session
end AccessReport
