import Spreadsheet.Text.Blank
import Spreadsheet.Text.Quoted

/-! # Command line options

Arguments are read from left to right. A request for help ends the reading; of an option given twice
the last one counts, and assignments are collected.
-/

namespace Spreadsheet.Command

structure Assignment where
  cell : String
  text : String
  deriving DecidableEq

structure Options where
  file : Option String
  formula : Option String
  assignments : List Assignment
  output : Option String
  pattern : Option String
  noConfig : Bool
  help : Bool
  deriving DecidableEq

def Options.initial : Options := ⟨none, none, [], none, none, false, false⟩

/-- The options that take a value. -/
inductive Setting where
  | formula
  | assignment
  | output
  | pattern
  deriving DecidableEq

def Setting.longName : Setting → String
  | formula => "--command"
  | assignment => "--set"
  | output => "--output"
  | pattern => "--pattern"

inductive ArgumentError where
  | missingValue (setting : Setting)
  | unknownOption (argument : String)
  | unexpectedArgument (argument : String)
  | invalidAssignment (argument : String)
  deriving DecidableEq

def ArgumentError.message : ArgumentError → String
  | missingValue setting => setting.longName ++ " requires a value"
  | unknownOption argument => "Unknown option: " ++ argument
  | unexpectedArgument argument => "Unexpected argument: " ++ argument
  | invalidAssignment argument => "Expected CELL=TEXT, got " ++ Text.quoted argument

/-- What an argument in front position means. -/
inductive Switch where
  | help
  | noConfig
  | setting (s : Setting)
  deriving DecidableEq

def Switch.ofText? (argument : String) : Option Switch :=
  if argument = "-h" ∨ argument = "--help" then some help
  else if argument = "--no-config" then some noConfig
  else if argument = "-c" ∨ argument = "--command" then some (setting .formula)
  else if argument = "-s" ∨ argument = "--set" then some (setting .assignment)
  else if argument = "-o" ∨ argument = "--output" then some (setting .output)
  else if argument = "--pattern" then some (setting .pattern)
  else none

/-- The parts before and behind the first equals sign, blanks around the first part left out. -/
def Assignment.parse? (argument : String) : Option Assignment :=
  let cs := argument.toList
  match cs.dropWhile (· ≠ '=') with
  | _ :: text =>
    some ⟨String.ofList (Text.trim (cs.takeWhile (· ≠ '='))), String.ofList text⟩
  | [] => none

namespace Options

def put (o : Options) (setting : Setting) (value : String) : Except ArgumentError Options :=
  match setting with
  | .formula => .ok { o with formula := some value }
  | .output => .ok { o with output := some value }
  | .pattern => .ok { o with pattern := some value }
  | .assignment => match Assignment.parse? value with
    | some a => .ok { o with assignments := o.assignments ++ [a] }
    | none => .error (.invalidAssignment value)

/-- Take an argument that is no known option: a file, unless it looks like an option or there is a
file already. A single hyphen is a file. -/
def takeFile (o : Options) (argument : String) : Except ArgumentError Options :=
  match argument.toList, o.file with
  | '-' :: _ :: _, _ => .error (.unknownOption argument)
  | _, some _ => .error (.unexpectedArgument argument)
  | _, none => .ok { o with file := some argument }

def read (o : Options) : List String → Except ArgumentError Options
  | [] => .ok o
  | argument :: rest =>
    match Switch.ofText? argument with
    | some .help => .ok { o with help := true }
    | some .noConfig => { o with noConfig := true }.read rest
    | some (.setting s) => match rest with
      | [] => .error (.missingValue s)
      | value :: rest => do
        let o ← o.put s value
        o.read rest
    | none => do
      let o ← o.takeFile argument
      o.read rest

/-- The options that the arguments spell. Help asked for leaves the other options open. -/
def parse (arguments : List String) : Except ArgumentError Options := initial.read arguments

end Options

end Spreadsheet.Command
