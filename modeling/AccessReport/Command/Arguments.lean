import AccessReport.Report.PageSize

/-!
What is asked for on a command line.
-/

namespace AccessReport

-- How reports are to be laid out, and where text documents are converted.
structure LayoutArguments where
  pageSize     : PageSize Float32 := .a4
  margin       : Float32 := Single.ofInt 50
  converterUrl : Option String := none
  -- in seconds
  timeout      : Nat := 120
  compress     : Bool := true

inductive Command where
  | assemble (manifest : String) (output : Option String) (layout : LayoutArguments)
  | batch (manifests : List String) (output : String) (layout : LayoutArguments)
  | preview (input : String) (json : Bool)
  | version

-- What is answered in place of running a command.
inductive Usage where
  -- how a command is used was asked for
  | help
  -- the version was asked for
  | version
  | noCommand
  | unknownCommand (name : String)
  | unknownOption (name : String)
  | repeatedOption (name : String)
  | noValue (name : String)
  | unusableValue (name value : String)
  | tooMany (value : String)
deriving DecidableEq, Repr

namespace Usage

def text : String :=
  "Usage: sarpdf assemble <MANIFEST> [-o <FILE>] [layout]\n" ++
  "       sarpdf batch <MANIFEST>... [-o <DIR>] [layout]\n" ++
  "       sarpdf preview <FILE> [--json]\n" ++
  "       sarpdf version\n" ++
  "\n" ++
  "Layout:\n" ++
  "  --page-size <SIZE>             a4, letter, or WIDTHxHEIGHT in points [default: a4]\n" ++
  "  --margin <POINTS>              [default: 50]\n" ++
  "  --converter-url <URL>          base of the document conversion service\n" ++
  "  --converter-timeout <SECONDS>  [default: 120]\n" ++
  "  --no-compress                  write uncompressed content streams\n"

-- What is wrong with a command line, if anything is.
def problem? : Usage → Option String
  | help | version => none
  | noCommand => some "no command"
  | unknownCommand name => some ("unrecognized command '" ++ name ++ "'")
  | unknownOption name => some ("unexpected argument '" ++ name ++ "'")
  | repeatedOption name => some ("'" ++ name ++ "' cannot be used multiple times")
  | noValue name => some ("a value is required for '" ++ name ++ "'")
  | unusableValue name value => some ("invalid value '" ++ value ++ "' for '" ++ name ++ "'")
  | tooMany value => some ("unexpected argument '" ++ value ++ "'")

end Usage

namespace Arguments

-- An option of a command. One without a value is given or not.
structure Switch where
  name       : String
  short      : Option Char := none
  takesValue : Bool := true
  accepts    : String → Bool := fun _ => true

def Switch.longName (s : Switch) : String :=
  "--" ++ s.name

-- What a command takes: options, and names of files.
structure Form where
  switches : List Switch := []
  -- how the names of files are called in messages
  what     : String := ""
  most     : Option Nat := some 1

structure Given where
  paths  : List String := []
  values : List (String × String) := []
  flags  : List String := []

namespace Given

def value? (g : Given) (s : Switch) : Option String :=
  g.values.lookup s.name

def hasFlag (g : Given) (s : Switch) : Bool :=
  g.flags.contains s.name

def addValue (g : Given) (s : Switch) (value : String) : Except Usage Given :=
  if (g.value? s).isSome then .error (.repeatedOption s.longName)
  else if !s.accepts value then .error (.unusableValue s.longName value)
  else .ok { g with values := g.values ++ [(s.name, value)] }

def addFlag (g : Given) (s : Switch) : Except Usage Given :=
  if g.hasFlag s then .error (.repeatedOption s.longName)
  else .ok { g with flags := g.flags ++ [s.name] }

-- Adds the name of a file, which is never empty.
def addPath (g : Given) (f : Form) (path : String) : Except Usage Given :=
  if f.most.any (· ≤ g.paths.length) then .error (.tooMany path)
  else if path.isEmpty then .error (.noValue f.what)
  else .ok { g with paths := g.paths ++ [path] }

end Given

-- Whether an argument is an option by its form; a lone hyphen is none.
def isSwitch (arg : String) : Bool :=
  match arg.toList with
  | '-' :: _ :: _ => true
  | _ => false

-- The name of an option, and what is behind a sign of equality, if there is one.
def splitValue (cs : List Char) : String × Option String :=
  let value := match cs.dropWhile (· ≠ '=') with
    | [] => none
    | _ :: value => some (String.ofList value)
  (String.ofList (cs.takeWhile (· ≠ '=')), value)

-- The option that an argument is, and the value that is attached to it.
def readSwitch (switches : List Switch) (arg : String) : Except Usage (Switch × Option String) :=
  match arg.toList with
  | '-' :: '-' :: cs =>
    let (name, value) := splitValue cs
    if name = "help" && value.isNone then .error .help
    else match switches.find? (·.name = name) with
      | some s => .ok (s, value)
      | none => .error (.unknownOption arg)
  | '-' :: c :: cs =>
    if c = 'h' then .error .help
    else match switches.find? (·.short = some c) with
      | some s =>
        .ok (s, match cs with
          | [] => none
          | '=' :: cs => some (String.ofList cs)
          | cs => some (String.ofList cs))
      | none => .error (.unknownOption arg)
  | _ => .error (.unknownOption arg)

-- Sorts arguments, up to the first that is out of place; behind two hyphens none is an option.
def sort (f : Form) (g : Given) : List String → Except Usage Given
  | [] => .ok g
  | arg :: args =>
    if arg = "--" then args.foldlM (·.addPath f) g
    else if !isSwitch arg then do sort f (← g.addPath f arg) args
    else do
      match ← readSwitch f.switches arg, args with
      | (s, attached), args =>
        match s.takesValue, attached, args with
        | false, some value, _ => .error (.tooMany value)
        | false, none, args => sort f (← g.addFlag s) args
        | true, some value, args => sort f (← g.addValue s value) args
        | true, none, value :: args =>
          if isSwitch value then .error (.noValue s.longName)
          else sort f (← g.addValue s value) args
        | true, none, [] => .error (.noValue s.longName)

/-! ### The options of the commands -/

-- A whole number of sixty-four bits, possibly with a plus sign.
def seconds? (s : String) : Option Nat :=
  let digits := match s.toList with
    | '+' :: cs => cs
    | cs => cs
  let n := Decimal.ofDigits digits
  if digits.isEmpty || !digits.all Decimal.isDigit || Nat.pow 2 64 ≤ n then none else some n

def pageSize? (s : String) : Option (PageSize Float32) :=
  (PageSize.parse s).toOption

def outputSwitch : Switch :=
  { name := "output", short := some 'o', accepts := fun s => !s.isEmpty }

def pageSizeSwitch : Switch :=
  { name := "page-size", accepts := fun s => (pageSize? s).isSome }

def marginSwitch : Switch :=
  { name := "margin", accepts := fun s => (Single.ofText? s).isSome }

def urlSwitch : Switch :=
  { name := "converter-url" }

def timeoutSwitch : Switch :=
  { name := "converter-timeout", accepts := fun s => (seconds? s).isSome }

def compressSwitch : Switch :=
  { name := "no-compress", takesValue := false }

def jsonSwitch : Switch :=
  { name := "json", takesValue := false }

def layoutSwitches : List Switch :=
  [pageSizeSwitch, marginSwitch, urlSwitch, timeoutSwitch, compressSwitch]

-- Adds a value from the environment for an option that is not given.
def orSet (environment : String → Option String) (s : Switch) (name : String) (g : Given) :
    Except Usage Given :=
  match g.value? s, environment name with
  | none, some value => g.addValue s value
  | _, _ => .ok g

-- The arguments for the layout; some that are not given may be set in the environment.
def layout (environment : String → Option String) (g : Given) : Except Usage LayoutArguments := do
  let g ← orSet environment urlSwitch "SARPDF_CONVERTER_URL" g
  let g ← orSet environment timeoutSwitch "SARPDF_CONVERTER_TIMEOUT" g
  let standard : LayoutArguments := {}
  return {
    pageSize := ((g.value? pageSizeSwitch).bind pageSize?).getD standard.pageSize
    margin := ((g.value? marginSwitch).bind Single.ofText?).getD standard.margin
    converterUrl := g.value? urlSwitch
    timeout := ((g.value? timeoutSwitch).bind seconds?).getD standard.timeout
    compress := !g.hasFlag compressSwitch }

/-! ### The commands -/

def manifestForm : Form :=
  { switches := outputSwitch :: layoutSwitches, what := "<MANIFEST>" }

def previewForm : Form :=
  { switches := [jsonSwitch], what := "<FILE>" }

def firstPath (f : Form) (g : Given) : Except Usage String :=
  match g.paths with
  | [] => .error (.noValue f.what)
  | path :: _ => .ok path

def commandNames : List String :=
  ["assemble", "batch", "preview", "version", "help"]

def readCommand (environment : String → Option String) (name : String) (args : List String) :
    Except Usage Command := do
  if name = "assemble" then
    let g ← sort manifestForm {} args
    let layout ← layout environment g
    .ok (.assemble (← firstPath manifestForm g) (g.value? outputSwitch) layout)
  else if name = "batch" then
    let form := { manifestForm with most := none }
    let g ← sort form {} args
    let layout ← layout environment g
    let _ ← firstPath form g
    .ok (.batch g.paths ((g.value? outputSwitch).getD ".") layout)
  else if name = "preview" then
    let g ← sort previewForm {} args
    .ok (.preview (← firstPath previewForm g) (g.hasFlag jsonSwitch))
  else if name = "version" then
    let _ ← sort { most := some 0 } {} args
    .ok .version
  else if name = "help" then
    match args.find? (!commandNames.contains ·) with
    | some unknown => .error (.unknownCommand unknown)
    | none => .error .help
  else .error (.unknownCommand name)

def parse (environment : String → Option String) : List String → Except Usage Command
  | [] => .error .noCommand
  | arg :: args =>
    if arg = "--help" || arg = "-h" then .error .help
    else if arg = "--version" || arg = "-V" then .error .version
    else if isSwitch arg then .error (.unknownOption arg)
    else readCommand environment arg args

end Arguments
end AccessReport
