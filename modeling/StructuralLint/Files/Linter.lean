import StructuralLint.Files.Expand
import StructuralLint.Lint.Linter
import StructuralLint.Report.Basic

/-!
# Linting files

A file linter lints each file at most once: it remembers the absolute path of every file it was
asked for, also of those that could not be opened or read. Standard input is read whenever it
is asked for, and is empty from then on.
-/

namespace StructuralLint

/-- Why a file was not linted. -/
inductive FileError where
  /-- The name cannot be used. -/
  | invalid (error : InvalidPath)
  /-- The file was asked for before. -/
  | duplicate (name : Text)
  /-- The file cannot be opened. -/
  | unopened (error : PathError)
  /-- The document cannot be read. -/
  | unreadable (name : Text) (error : ReadError)
  /-- The lines cannot be read. -/
  | unreadableLines (name : Text) (error : ReadError)
  /-- The arguments cannot be expanded. -/
  | unexpanded (error : ExpandError)
  deriving DecidableEq, Repr

/-- The wording of a failure. -/
def FileError.message : FileError → Text
  | invalid e => e.message
  | duplicate name => name ++ Text.ofString ": file already linted"
  | unopened e => Text.ofString "failed to open file: " ++ e.message
  | unreadable name e => name ++ Text.ofString ": " ++ e.documentMessage
  | unreadableLines name e => name ++ Text.ofString ": " ++ e.message
  | unexpanded e => e.message

/-- Whether the failure is that the file was asked for before. -/
def FileError.isDuplicate : FileError → Bool
  | duplicate _ => true
  | _ => false

/-- Lints each file once. -/
structure FileLinter where
  /-- How files are found. -/
  options : FileOptions := {}
  /-- How documents are linted. -/
  linter : Linter := {}
  /-- The absolute paths asked for so far. -/
  visited : List Text := []

namespace FileLinter

/-- Lints a source under a name. -/
def lintSourceTraced (f : FileLinter) (name : Text) (source : Source) :
    Except FileError (Report × Trace) :=
  match source.read with
  | (_, some e) => .error (.unreadable name e)
  | (lines, none) =>
    let (diagnostics, trace) := f.linter.lintTraced lines
    .ok (⟨name, diagnostics⟩, trace)

/-- Lints a source under a name. -/
def lintSource (f : FileLinter) (name : Text) (source : Source) : Except FileError Report :=
  (f.lintSourceTraced name source).map (·.1)

/-- Lints what a reader yields under a name. -/
def lintReader (f : FileLinter) (name : Text) (r : Reader) : Except FileError Report :=
  match f.linter.lintReader r with
  | .error e => .error (.unreadable name e)
  | .ok diagnostics => .ok ⟨name, diagnostics⟩

/-- Opens a file by its absolute path and lints it. -/
def lintAt (f : FileLinter) (w : World) (name path : Text) : Except FileError (Report × Trace) :=
  match w.openFile path with
  | .error e => .error (.unopened e)
  | .ok source => f.lintSourceTraced name source

/-- Lints a file, unless it was asked for before, and remembers it. -/
def lintFileTraced (f : FileLinter) (w : World) (name : Text) :
    FileLinter × Except FileError (Report × Trace) :=
  match f.options.resolve w name with
  | .error e => (f, .error (.invalid e))
  | .ok path =>
    if f.visited.contains path then (f, .error (.duplicate name))
    else ({ f with visited := path :: f.visited }, f.lintAt w name path)

/-- Lints a file, unless it was asked for before, and remembers it. -/
def lintFile (f : FileLinter) (w : World) (name : Text) : FileLinter × Except FileError Report :=
  let (f, result) := f.lintFileTraced w name
  (f, result.map (·.1))

/-- The lines of a file. -/
def readLines (f : FileLinter) (w : World) (name : Text) : Except FileError (List Line) :=
  match f.options.resolve w name with
  | .error e => .error (.invalid e)
  | .ok path =>
    match w.openFile path with
    | .error e => .error (.unopened e)
    | .ok source =>
      match source.read with
      | (_, some e) => .error (.unreadableLines name e)
      | (lines, none) => .ok lines

/-- Lints standard input or a file. -/
def lintName (f : FileLinter) (w : World) (name : Text) :
    FileLinter × World × Except FileError Report :=
  if name = stdinName then (f, w.drainInput, f.lintSource name w.input)
  else
    let (f, result) := f.lintFile w name
    (f, w, result)

/-- Lints names in order, up to the first failure. -/
def lintNames (f : FileLinter) (w : World) :
    List Text → FileLinter × World × Except FileError (List Report)
  | [] => (f, w, .ok [])
  | name :: names =>
    match f.lintName w name with
    | (f, w, .error e) => (f, w, .error e)
    | (f, w, .ok report) =>
      let (f, w, result) := f.lintNames w names
      (f, w, result.map (report :: ·))

/-- Expands arguments and lints what they stand for. -/
def lintPaths (f : FileLinter) (w : World) (arguments : List Text) :
    FileLinter × World × Except FileError (List Report) :=
  match f.options.expand w arguments with
  | .error e => (f, w, .error (.unexpanded e))
  | .ok names => f.lintNames w names

end FileLinter

end StructuralLint
