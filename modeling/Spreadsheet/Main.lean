import Spreadsheet.Command.Run

/-! # The command -/

namespace Spreadsheet.Command

/-- The cause of a failed access to a file. Codes of the system come with either sign. -/
def fileError (e : IO.Error) : FileError :=
  match e with
  | .noFileOrDirectory .. => .notFound
  | .inappropriateType _ code _ => if code = 20 ∨ code = 0 - 20 then .notDirectory else .isDirectory
  | .invalidArgument _ code _ =>
    if code = 36 ∨ code = 0 - 36 then .nameTooLong else .other (toString e)
  | e => .other (toString e)

def diskFiles : Files IO where
  read path := do
    try
      let bytes ← IO.FS.readBinFile path
      pure (.ok bytes.data.toList)
    catch e => pure (.error (fileError e))
  write path bytes := do
    try
      IO.FS.writeBinFile path bytes.toByteArray
      pure (.ok ())
    catch e => pure (.error (fileError e))

/-- Where the configuration is looked for. A directory set for configurations counts only if its path
is absolute. -/
def configPath : IO (Option String) := do
  match ← IO.getEnv "GRIDCALC_CONFIG" with
  | some path => pure (some path)
  | none =>
    let directory := (← IO.getEnv "XDG_CONFIG_HOME").filter (·.startsWith "/")
    let home := (← IO.getEnv "HOME").filter (· ≠ "")
    match directory, home with
    | some directory, _ => pure (some (directory ++ "/gridcalc/config.toml"))
    | none, some home => pure (some (home ++ "/.config/gridcalc/config.toml"))
    | none, none => pure none

end Spreadsheet.Command

open Spreadsheet.Command in
def main (arguments : List String) : IO UInt32 := do
  let outcome ← run diskFiles (← configPath) arguments
  IO.print outcome.stdout
  IO.eprint outcome.stderr
  return outcome.exit
