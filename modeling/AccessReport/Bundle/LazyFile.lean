import AccessReport.Bundle.Disk

/-!
Files that are opened when they are first read and closed when they are read to the end.
-/

namespace AccessReport

-- How far a file was read.
inductive LazyFile.State where
  | pending
  -- what was fetched but not handed out, and what was not fetched
  | opened (fetched : Bytes) (rest : Entry)
  | drained
deriving DecidableEq, Repr

structure LazyFile where
  path  : String
  state : LazyFile.State := .pending
deriving DecidableEq, Repr

namespace LazyFile

def isOpen (f : LazyFile) : Bool :=
  match f.state with
  | .opened .. => true
  | _ => false

def fetchSize : Nat :=
  8192

-- Hands out at most `n` bytes of what was fetched, after fetching more if there is nothing; large
-- parts are not fetched first.
def handOut (n : Nat) (fetched : Bytes) (rest : Entry) : Except DiskFault (Bytes × Bytes × Entry) :=
  if !fetched.isEmpty then .ok (fetched.take n, fetched.drop n, rest)
  else match rest with
    | .folder => .error .isFolder
    | .file bs =>
      if fetchSize ≤ n then .ok (bs.take n, [], .file (bs.drop n))
      else
        let fetched := bs.take fetchSize
        .ok (fetched.take n, fetched.drop n, .file (bs.drop fetchSize))

-- Reads from an open file; a file that has nothing for someone who wants something is drained.
def readOpened (f : LazyFile) (n : Nat) (fetched : Bytes) (rest : Entry) :
    Except DiskFault Bytes × LazyFile :=
  match handOut n fetched rest with
  | .error fault => (.error fault, { f with state := .opened fetched rest })
  | .ok (out, fetched, rest) =>
    (.ok out, { f with state := if out.isEmpty && 0 < n then .drained else .opened fetched rest })

-- Reads at most `n` bytes. A file that cannot be opened is tried again by the next read.
def read {m : Type → Type} [Monad m] (disk : Disk m) (f : LazyFile) (n : Nat) :
    m (Except DiskFault Bytes × LazyFile) :=
  match f.state with
  | .drained => return (.ok [], f)
  | .opened fetched rest => return f.readOpened n fetched rest
  | .pending => do
    match ← disk.look f.path with
    | .error fault => return (.error fault, f)
    | .ok entry => return f.readOpened n [] entry

end LazyFile
end AccessReport
