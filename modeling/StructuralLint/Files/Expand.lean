import StructuralLint.Files.System
import StructuralLint.Text.Lower

/-!
# From arguments to files

An argument is `-` for standard input, a file, or a directory that stands for the files below it
with one of the configured extensions. `candidates` lists what one argument stands for, each
name with the key by which it is told apart: the clean absolute path, or `-`. Expanding a list
of arguments concatenates these lists and keeps the first name of each key.
-/

namespace StructuralLint

/-- How files are found. -/
structure FileOptions where
  /-- The extensions looked for in directories, in any case. -/
  extensions : List Text := [".yaml", ".yml"]
  /-- The directory that relative names start from. -/
  baseDir : Text := "."
  deriving DecidableEq, Repr

/-- Why a path cannot be used. -/
inductive InvalidPath where
  /-- The system refuses it. -/
  | refused (error : PathError)
  /-- It is relative, and there is no working directory. -/
  | unresolved (error : World.NoWorkingDirectory)
  deriving DecidableEq, Repr

/-- The wording of an unusable path. -/
def InvalidPath.message : InvalidPath → Text
  | refused e => Text.ofString "invalid path: " ++ e.message
  | unresolved e => Text.ofString "invalid path: " ++ e.message

/-- Why a directory cannot be walked. -/
inductive WalkError where
  /-- The system refuses a path below it. -/
  | refused (error : PathError)
  /-- A file found has no name relative to the base directory. -/
  | notRelative (target base : Text)
  /-- A file found cannot be told apart from others. -/
  | invalid (error : InvalidPath)
  deriving DecidableEq, Repr

/-- The wording of a failed walk. -/
def WalkError.message : WalkError → Text
  | refused e => e.message
  | notRelative target base =>
    Text.ofString "Rel: can't make " ++ target ++ Text.ofString " relative to " ++ base
  | invalid e => e.message

/-- Why arguments cannot be expanded. -/
inductive ExpandError where
  /-- An argument cannot be used. -/
  | invalid (error : InvalidPath)
  /-- A directory cannot be walked. -/
  | walk (argument : Text) (error : WalkError)
  deriving DecidableEq, Repr

/-- The wording of a failed expansion. -/
def ExpandError.message : ExpandError → Text
  | invalid e => e.message
  | walk argument e =>
    Text.ofString "failed to walk " ++ argument ++ Text.ofString ": " ++ e.message

/-- The argument that selects standard input. -/
def stdinName : Text := "-"

namespace FileOptions

/-- The options that replace these: no extensions keep the current ones, and no base directory
is the current directory. -/
def replacedBy (current : FileOptions) (extensions : List Text) (baseDir : Text) : FileOptions where
  extensions := if extensions.isEmpty then current.extensions else extensions
  baseDir := if baseDir.isEmpty then "." else baseDir

/-- A name, relative names starting from the base directory. -/
def join (o : FileOptions) (name : Text) : Text :=
  if Path.isAbsolute name then name else Path.join o.baseDir name

/-- The clean absolute path a name stands for. -/
def resolve (o : FileOptions) (w : World) (name : Text) : Except InvalidPath Text :=
  (w.absolute (o.join name)).mapError .unresolved

/-- Whether a path has one of the extensions. -/
def hasExtension (o : FileOptions) (path : Text) : Bool :=
  let e := (Path.extension path).lower
  o.extensions.any fun want => e = want.lower

/-- A file to be linted: the key that tells it apart, and its name. -/
structure Candidate where
  /-- The clean absolute path, or `-`. -/
  key : Text
  /-- The name to report it by. -/
  name : Text
  deriving DecidableEq, Repr

/-- The name of a file found below a directory argument: relative to the base directory unless
the argument is absolute. -/
def foundName (o : FileOptions) (argument path : Text) : Except WalkError Text :=
  if Path.isAbsolute argument then .ok path
  else
    match Path.relative? o.baseDir path with
    | some name => .ok name
    | none => .error (.notRelative path o.baseDir)

/-- The file found at a path below a directory argument. -/
def found (o : FileOptions) (w : World) (argument path : Text) : Except WalkError Candidate := do
  let name ← o.foundName argument path
  let key ← (o.resolve w name).mapError .invalid
  return ⟨key, name⟩

/-- The files found below a directory argument. -/
def foundBelow (o : FileOptions) (w : World) (argument : Text) :
    Except WalkError (List Candidate) := do
  let paths ← (w.walk (o.join argument)).mapError .refused
  (paths.filter o.hasExtension).mapM (o.found w argument)

/-- What one argument stands for. -/
def candidates (o : FileOptions) (w : World) (argument : Text) :
    Except ExpandError (List Candidate) :=
  if argument = stdinName then .ok [⟨stdinName, stdinName⟩]
  else
    match w.isDirectory (o.join argument) with
    | .error e => .error (.invalid (.refused e))
    | .ok true => (o.foundBelow w argument).mapError (.walk argument)
    | .ok false =>
      match o.resolve w argument with
      | .error e => .error (.invalid e)
      | .ok key => .ok [⟨key, argument⟩]

/-- Keeps the first candidate of each key that is not among those seen. -/
def firstOfEachKey (seen : List Text) : List Candidate → List Candidate
  | [] => []
  | c :: cs =>
    if seen.contains c.key then firstOfEachKey seen cs
    else c :: firstOfEachKey (c.key :: seen) cs

/-- The files that a list of arguments stands for, each once. -/
def expand (o : FileOptions) (w : World) (arguments : List Text) :
    Except ExpandError (List Text) := do
  let all ← arguments.mapM (o.candidates w)
  return (firstOfEachKey [] all.flatten).map (·.name)

end FileOptions

end StructuralLint
