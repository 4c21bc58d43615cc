import StructuralLint.Files.Linter

/-!
# A file linter in use

One file linter in a world that changes: files are written and removed between the calls.
-/

namespace StructuralLint

/-- A file linter and the world it works in. -/
structure FileSession where
  /-- The file linter. -/
  linter : FileLinter := {}
  /-- The world. -/
  world : World := {}

/-- What can happen to a file linter. -/
inductive FileRequest where
  /-- A new file linter takes its place. -/
  | renew
  /-- Replace the options. -/
  | setOptions (extensions : List Text) (baseDir : Text)
  /-- Replace the linter of documents. -/
  | setLinter (linter : Linter)
  /-- Somebody writes a file. -/
  | write (path content : Text)
  /-- Somebody removes a path. -/
  | remove (path : Text)
  /-- Lint a file. -/
  | lintFile (name : Text)
  /-- Lint a source. -/
  | lintSource (name : Text) (source : Source)
  /-- Read the lines of a file. -/
  | readLines (name : Text)
  /-- Expand arguments. -/
  | expand (arguments : List Text)
  /-- Expand arguments and lint. -/
  | lintPaths (arguments : List Text)

/-- What a request is answered with. -/
inductive FileResponse where
  | done
  | report (result : Except FileError Report)
  | lines (result : Except FileError (List Line))
  | files (result : Except FileError (List Text))
  | reports (result : Except FileError (List Report))

namespace FileSession

/-- Answers one request. -/
def step (s : FileSession) : FileRequest → FileSession × FileResponse
  | .renew => ({ s with linter := {} }, .done)
  | .setOptions extensions baseDir =>
    ({ s with linter.options := s.linter.options.replacedBy extensions baseDir }, .done)
  | .setLinter linter => ({ s with linter.linter := linter }, .done)
  | .write path content => ({ s with world := s.world.writeFile path content }, .done)
  | .remove path => ({ s with world := s.world.removeAll path }, .done)
  | .lintFile name =>
    let (f, result) := s.linter.lintFile s.world name
    ({ s with linter := f }, .report result)
  | .lintSource name source => (s, .report (s.linter.lintSource name source))
  | .readLines name => (s, .lines (s.linter.readLines s.world name))
  | .expand arguments =>
    (s, .files ((s.linter.options.expand s.world arguments).mapError .unexpanded))
  | .lintPaths arguments =>
    let (f, w, result) := s.linter.lintPaths s.world arguments
    (⟨f, w⟩, .reports result)

/-- Answers requests one after the other. -/
def run (s : FileSession) : List FileRequest → List FileResponse
  | [] => []
  | r :: rs =>
    let (s', response) := s.step r
    response :: s'.run rs

end FileSession

end StructuralLint
