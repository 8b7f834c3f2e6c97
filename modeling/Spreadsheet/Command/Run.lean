import Spreadsheet.Command.Config
import Spreadsheet.Command.Options
import Spreadsheet.Sheet.File

/-! # Running the command

The command finds its pattern, loads a sheet, makes the assignments, and then answers a formula or
lists the sheet, line by line; only after that the sheet is saved. What fails before the answer leaves
nothing on standard output and no file changed.
-/

namespace Spreadsheet.Command

open Sheet (EditError OpenError)

inductive ConfigError where
  | unreadable (path : String) (e : FileError)
  | notText (path : String)
  | tooLarge (path : String) (size : Nat)
  | unparsable (path : String)
  deriving DecidableEq

inductive Failure where
  | config (e : ConfigError)
  | pattern (source : String) (e : Pattern.Error)
  | noSheet (path : String) (e : OpenError)
  | assignment (cell : String) (e : EditError)
  | formula (e : EditError)
  | list (e : EditError)
  | save (path : String) (e : FileError)
  deriving DecidableEq

/-- A message whose last part is the cause, followed by the cause again. -/
def withCause (message cause : String) : String := message ++ cause ++ ": " ++ cause

def ConfigError.message : ConfigError → String
  | unreadable path e => withCause ("Failed to read " ++ path ++ ": ") e.message
  | notText path => withCause ("Failed to read " ++ path ++ ": ") "stream did not contain valid UTF-8"
  | tooLarge path size =>
    "Refusing to read " ++ path ++ ": config file too large (" ++ toString size ++ " bytes, max " ++
      toString Config.maxSize ++ ")"
  | unparsable path => withCause ("Failed to parse " ++ path ++ ": ") "TOML parse error"

def editMessage (e : EditError) : String :=
  match e with
  | .invalidName _ => e.message
  | .formula f => e.message ++ ": " ++ f.message
  | .circular _ cycle => e.message ++ ": " ++ cycle.message

def Failure.message : Failure → String
  | config e => e.message
  | pattern source e => "invalid pattern " ++ Text.quoted source ++ ": " ++ e.message
  | noSheet path (.file e) => withCause ("failed to load " ++ path ++ ": IO error: ") e.message
  | noSheet path (.load e) => "failed to load " ++ path ++ ": " ++ e.message
  | assignment cell e => "failed to set " ++ cell ++ ": " ++ editMessage e
  | formula e | list e => editMessage e
  | save path e => withCause ("failed to save " ++ path ++ ": IO error: ") e.message

structure Outcome where
  exit : UInt32
  stdout : String
  stderr : String
  deriving DecidableEq

def Outcome.failed (stdout : String) (f : Failure) : Outcome :=
  ⟨1, stdout, "Error: " ++ f.message ++ "\n"⟩

def usage : String := String.join
  ["Usage: gridcalc [OPTIONS] [FILE]\n",
   "\n",
   "Arguments:\n",
   "  [FILE]                    Spreadsheet file to open (.xml)\n",
   "\n",
   "Options:\n",
   "  -c, --command <FORMULA>   Evaluate a formula against the sheet and print it\n",
   "  -s, --set <CELL=TEXT>     Set a cell before evaluating (can be repeated)\n",
   "  -o, --output <FILE>       Save the resulting sheet\n",
   "  --pattern <REGEX>         Only accept cell names matching REGEX\n",
   "  --no-config               Ignore the user config file\n",
   "  -h, --help                Print help\n"]

/-! ## The parts of a run -/

def configOfBytes (path : String) (bytes : List UInt8) : Except ConfigError Config :=
  if Config.maxSize < bytes.length then .error (.tooLarge path bytes.length)
  else match String.fromUTF8? bytes.toByteArray with
    | none => .error (.notText path)
    | some text => match Config.parse? text with
      | some config => .ok config
      | none => .error (.unparsable path)

/-- The configuration at a path; one that leads to nothing is an empty one. -/
def configOfRead (path : String) : Except FileError (List UInt8) → Except ConfigError Config
  | .ok bytes => configOfBytes path bytes
  | .error .notFound | .error .notDirectory | .error .nameTooLong => .ok .empty
  | .error e => .error (.unreadable path e)

def patternOf : Option String → Except Failure NamePattern
  | none => .ok .any
  | some source => (NamePattern.ofSource? source).mapError (.pattern source)

def assign (sheet : Sheet) (a : Assignment) : Except Failure Sheet :=
  match sheet.set a.cell a.text with
  | (.ok _, sheet) => .ok sheet
  | (.error e, _) => .error (.assignment a.cell e)

def listLine (sheet : Sheet) (a : CellName) : Except EditError String := do
  let content ← sheet.content a.text
  let value ← sheet.value a.text
  pure (a.text ++ ": " ++ content.display ++ " => " ++ value.display ++ "\n")

/-- What is printed, and the exit code unless the run breaks off behind it. -/
structure Answer where
  text : String
  exit : Except Failure UInt32

/-- A line and what is printed behind it. If the line fails, nothing is. -/
def Answer.cons (line : Except EditError String) (rest : Answer) : Answer :=
  match line with
  | .ok line => ⟨line ++ rest.text, rest.exit⟩
  | .error e => ⟨"", .error (.list e)⟩

/-- The lines of cells, up to the first one that fails. -/
def listing (sheet : Sheet) (names : List CellName) : Answer :=
  names.foldr (fun a rest => .cons (listLine sheet a) rest) ⟨"", .ok 0⟩

def answer (sheet : Sheet) : Option String → Answer
  | some formula =>
    match sheet.evaluate formula with
    | .ok v => ⟨v.display ++ "\n", .ok (if v.isError then 1 else 0)⟩
    | .error e => ⟨"", .error (.formula e)⟩
  | none => listing sheet sheet.names

/-! ## Runs -/

variable {m : Type → Type} [Monad m]

/-- The pattern asked for: by option, else by the configuration file. -/
def findPattern (files : Files m) (config : Option String) (o : Options) :
    m (Except Failure NamePattern) := do
  match o.pattern, o.noConfig, config with
  | some source, _, _ => pure (patternOf (some source))
  | none, false, some path =>
    match configOfRead path (← files.read path) with
    | .ok c => pure (patternOf c.pattern)
    | .error e => pure (.error (.config e))
  | none, _, _ => pure (patternOf none)

def openSheet (files : Files m) (pattern : NamePattern) (o : Options) :
    m (Except Failure Sheet) := do
  match o.file with
  | some path => do
    let sheet ← Sheet.openFile files path pattern
    pure (sheet.mapError (.noSheet path))
  | none => pure (.ok (.empty pattern))

/-- The sheet with all assignments made, in order. -/
def prepare (files : Files m) (config : Option String) (o : Options) :
    m (Except Failure Sheet) := do
  match ← findPattern files config o with
  | .error f => pure (.error f)
  | .ok pattern =>
    match ← openSheet files pattern o with
    | .error f => pure (.error f)
    | .ok sheet => pure (o.assignments.foldlM assign sheet)

/-- Run with options that do not ask for help. -/
def runOptions (files : Files m) (config : Option String) (o : Options) : m Outcome := do
  match ← prepare files config o with
  | .error f => pure (.failed "" f)
  | .ok sheet =>
    match answer sheet o.formula with
    | ⟨text, .error f⟩ => pure (.failed text f)
    | ⟨text, .ok exit⟩ =>
      match o.output with
      | none => pure ⟨exit, text, ""⟩
      | some path =>
        match ← sheet.saveFile files path with
        | (.ok (), _) => pure ⟨exit, text, ""⟩
        | (.error e, _) => pure (.failed text (.save path e))

/-- Run the command with its arguments, `config` being where the configuration is looked for. -/
def run (files : Files m) (config : Option String) (arguments : List String) : m Outcome :=
  match Options.parse arguments with
  | .error e => pure ⟨1, "", "Error: " ++ e.message ++ "\n" ++ usage⟩
  | .ok o => if o.help then pure ⟨0, "", usage⟩ else runOptions files config o

end Spreadsheet.Command
