import AccessReport.Text.Blank

/-!
Names of files: parts with slashes between them.
-/

namespace AccessReport
namespace Path

def separator : Char :=
  '/'

-- The characters of a path, last one first, without what names nothing at its end: slashes, and
-- parts that are a single dot. The slash of the root stays.
def trimEnd : (reversed : List Char) → List Char
  | '/' :: '/' :: cs => trimEnd ('/' :: cs)
  | ['/'] => ['/']
  | '/' :: c :: cs => trimEnd (c :: cs)
  | '.' :: '/' :: cs => trimEnd ('/' :: cs)
  | cs => cs

-- The path without its end, and its last part.
def split (path : String) : List Char × List Char :=
  let reversed := trimEnd path.toList.reverse
  ((trimEnd (reversed.dropWhile (· ≠ separator))).reverse,
    (reversed.takeWhile (· ≠ separator)).reverse)

-- What the last part is in; the root and the empty path are in nothing.
def parent? (path : String) : Option String :=
  let (start, last) := split path
  if last.isEmpty then none else some (String.ofList start)

-- The last part, unless it leads to a folder that is named elsewhere.
def fileName? (path : String) : Option String :=
  let (_, last) := split path
  if last.isEmpty || last = ['.'] || last = ['.', '.'] then none else some (String.ofList last)

-- The name of a file up to its last dot; a dot in front begins no ending.
def stem (path : String) : String :=
  let name := ((fileName? path).getD "").toList
  match (name.reverse.dropWhile (· ≠ '.')).drop 1 with
  | [] => String.ofList name
  | reversed => String.ofList reversed.reverse

-- A path seen from a folder; one that starts at the root stays as it is.
def join (folder path : String) : String :=
  match path.toList.head? with
  | some '/' => path
  | _ =>
    if folder.isEmpty || folder.toList.getLast? = some separator then folder ++ path
    else folder ++ "/" ++ path

-- The path to another file in the same folder.
def withFileName (path name : String) : String :=
  match fileName? path with
  | some _ => join ((parent? path).getD "") name
  | none => join path name

-- The parts between the slashes, empty ones included.
def parts (path : String) : List String :=
  (Text.cut (· = separator) path.toList).map String.ofList

end Path
end AccessReport
