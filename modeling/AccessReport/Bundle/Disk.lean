import AccessReport.Bundle.Path
import AccessReport.Bytes

/-!
Where files are kept: access to them in general, and folders of files in memory.
-/

namespace AccessReport

inductive DiskFault where
  | missing
  | present
  | notFolder
  | isFolder
  | other (detail : String)
deriving DecidableEq, Repr

def DiskFault.message : DiskFault → String
  | missing => "No such file or directory (os error 2)"
  | present => "File exists (os error 17)"
  | notFolder => "Not a directory (os error 20)"
  | isFolder => "Is a directory (os error 21)"
  | other detail => detail

-- What is found under a path. A folder can be opened, but not read.
inductive Entry where
  | file (content : Bytes)
  | folder
deriving DecidableEq, Repr

def Entry.content : Entry → Except DiskFault Bytes
  | file content => .ok content
  | folder => .error .isFolder

structure Disk (m : Type → Type) where
  look       : (path : String) → m (Except DiskFault Entry)
  write      : (path : String) → Bytes → m (Except DiskFault Unit)
  -- makes the folders above it as well; it may be there already
  makeFolder : (path : String) → m (Except DiskFault Unit)

def Disk.read {m : Type → Type} [Monad m] (disk : Disk m) (path : String) :
    m (Except DiskFault Bytes) := do
  let found ← disk.look path
  return found.bind (·.content)

-- A folder of files, each under the parts of its path, and of folders without files.
structure Folder where
  files   : List (List String × Bytes) := []
  folders : List (List String) := []
deriving DecidableEq, Repr

namespace Folder

def file? (f : Folder) (place : List String) : Option Bytes :=
  f.files.lookup place

-- A place is a folder if it is the folder itself or something is in it.
def isFolder (f : Folder) (place : List String) : Bool :=
  place.isEmpty || f.folders.contains place ||
    f.files.any fun (other, _) => place.length < other.length && other.take place.length = place

-- Goes from a place along the parts of a path. All but the last must lead to folders.
def walk (f : Folder) (place : List String) : (parts : List String) →
    Except DiskFault (List String)
  | [] => .ok place
  | part :: parts =>
    if f.isFolder place then
      if part = "" || part = "." then f.walk place parts
      else if part = ".." then
        if place.isEmpty then .error .missing else f.walk place.dropLast parts
      else f.walk (place ++ [part]) parts
    else if (f.file? place).isSome then .error .notFolder
    else .error .missing

-- The place that a path leads to; paths from the root do not lead into a folder.
def place (f : Folder) (path : String) : Except DiskFault (List String) :=
  match path.toList.head? with
  | none | some '/' => .error .missing
  | _ => f.walk [] (Path.parts path)

def look (f : Folder) (path : String) : Except DiskFault Entry := do
  let place ← f.place path
  match f.file? place with
  | some content => .ok (.file content)
  | none => if f.isFolder place then .ok .folder else .error .missing

-- The folder with a file at a place.
def put (f : Folder) (place : List String) (content : Bytes) : Folder :=
  { f with files := f.files.filter (·.1 ≠ place) ++ [(place, content)] }

def write (f : Folder) (path : String) (content : Bytes) : Except DiskFault Folder := do
  let place ← f.place path
  if f.isFolder place then .error .isFolder else .ok (f.put place content)

-- Goes along the parts of a path and makes the folders that are missing.
def makeAlong (f : Folder) (place : List String) : (parts : List String) → Except DiskFault Folder
  | [] => .ok f
  | part :: parts =>
    if part = "" || part = "." then f.makeAlong place parts
    else if part = ".." then f.makeAlong place.dropLast parts
    else
      let place := place ++ [part]
      if (f.file? place).isSome then
        .error (if parts.isEmpty then .present else .notFolder)
      else if f.isFolder place then f.makeAlong place parts
      else { f with folders := f.folders ++ [place] }.makeAlong place parts

def makeFolder (f : Folder) (path : String) : Except DiskFault Folder :=
  match path.toList.head? with
  | none => .ok f
  | some '/' => .error (.other "Permission denied (os error 13)")
  | _ => f.makeAlong [] (Path.parts path)

def remove (f : Folder) (path : String) : Folder :=
  match f.place path with
  | .ok place => { f with
      files := f.files.filter (·.1 ≠ place)
      -- what the file was in does not vanish with it
      folders := if place.length ≤ 1 then f.folders else f.folders ++ [place.dropLast] }
  | .error _ => f

-- Takes over a changed folder, unless there was a fault.
def update (result : Except DiskFault Folder) : StateM Folder (Except DiskFault Unit) :=
  match result with
  | .ok f => do
    set f
    return .ok ()
  | .error fault => return .error fault

-- A folder in memory as a disk.
def disk : Disk (StateM Folder) where
  look path := do return (← get).look path
  write path content := do update ((← get).write path content)
  makeFolder path := do update ((← get).makeFolder path)

end Folder
end AccessReport
