import Std.Data.ExtTreeMap

/-! # File systems

Access to whole files, and a file system in memory that provides it.
-/

namespace Spreadsheet

inductive FileError where
  | notFound
  | isDirectory
  | notDirectory
  | nameTooLong
  | other (text : String)
  deriving DecidableEq

def FileError.message : FileError → String
  | notFound => "No such file or directory (os error 2)"
  | isDirectory => "Is a directory (os error 21)"
  | notDirectory => "Not a directory (os error 20)"
  | nameTooLong => "File name too long (os error 36)"
  | other text => text

/-- Whole files are read and replaced. -/
structure Files (m : Type → Type) where
  read : String → m (Except FileError (List UInt8))
  write : String → List UInt8 → m (Except FileError Unit)

/-- The contents of files by the names on the way to them. A directory is there if a file is in
it. -/
structure FileSystem where
  files : Std.ExtTreeMap String (List UInt8)

inductive FileEntry where
  | file (bytes : List UInt8)
  | directory
  | absent
  deriving DecidableEq

namespace FileSystem

def empty : FileSystem := ⟨∅⟩

/-- The names on the way from the directory of the run to a place. Of the places outside it only the
directories above it are there: `..` leads to them, and an empty name is the top of all. -/
abbrev Place := List String

namespace Place

def key (place : Place) : String := "/".intercalate place

def isAbove (place : Place) : Bool := place.all fun name => name == ".." || name == ""

def parent (place : Place) : Place :=
  match place.getLast? with
  | none | some ".." => place ++ [".."]
  | some "" => place
  | some _ => place.dropLast

end Place

def maxName : Nat := 255

def maxPath : Nat := 4095

def names (path : String) : List String := (path.toList.splitOn '/').map String.ofList

/-- The steps that a path names, and the place where they start. -/
def steps (path : String) : Place × List String :=
  if path.startsWith "/" then ([""], names path) else ([], names path)

/-- The names of a path, without those that stay in place. -/
def place (path : String) : Place :=
  (names path).filter fun name => name ≠ "" ∧ name ≠ "."

def hasFileBelow (fs : FileSystem) (place : Place) : Bool :=
  fs.files.keys.any fun key =>
    place.isPrefixOf (names key) && decide (place.length < (names key).length)

def entry (fs : FileSystem) (place : Place) : FileEntry :=
  match fs.files[place.key]? with
  | some bytes => .file bytes
  | none => if place.isAbove || fs.hasFileBelow place then .directory else .absent

def step (fs : FileSystem) (place : Place) (name : String) : Except FileError Place :=
  match fs.entry place with
  | .absent => .error .notFound
  | .file _ => .error .notDirectory
  | .directory =>
    if maxName < name.utf8ByteSize then .error .nameTooLong
    else if name = "" ∨ name = "." then .ok place
    else if name = ".." then .ok place.parent
    else .ok (place ++ [name])

/-- The place where a path ends, if each step is taken from a directory. -/
def resolve (fs : FileSystem) (path : String) : Except FileError Place :=
  if path = "" then .error .notFound
  else if maxPath < path.utf8ByteSize then .error .nameTooLong
  else
    let (start, names) := steps path
    names.foldlM fs.step start

def read (fs : FileSystem) (path : String) : Except FileError (List UInt8) := do
  match fs.entry (← fs.resolve path) with
  | .file bytes => .ok bytes
  | .directory => .error .isDirectory
  | .absent => .error .notFound

/-- Put a file in place, in a directory that is there. -/
def put (fs : FileSystem) (place : Place) (bytes : List UInt8) : FileSystem :=
  ⟨fs.files.insert place.key bytes⟩

def withoutSlashes (path : String) : String :=
  String.ofList (path.toList.reverse.dropWhile (· == '/')).reverse

/-- Only a file can be written, also where nothing is yet: a path that ends as that of a directory is
refused once the way to it is found. -/
def write (fs : FileSystem) (path : String) (bytes : List UInt8) : Except FileError FileSystem := do
  let named := withoutSlashes path
  let place ← fs.resolve (if named = "" then path else named)
  if path.endsWith "/" then .error .isDirectory
  else match fs.entry place with
    | .directory => .error .isDirectory
    | _ => .ok (fs.put place bytes)

def access : Files (StateM FileSystem) where
  read path := fun fs => (fs.read path, fs)
  write path bytes := fun fs => match fs.write path bytes with
    | .ok fs => (.ok (), fs)
    | .error e => (.error e, fs)

end FileSystem

end Spreadsheet
