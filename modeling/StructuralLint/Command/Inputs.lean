import StructuralLint.Command.Run

/-!
# What a run looks at

The paths that a run consults, known from its arguments before anything is read: the places of a
configuration file, and the paths in which documents are searched. Once these are known, the
documents to be read are known too.
-/

namespace StructuralLint.Command

/-- The paths at which a configuration file may be. -/
def configPaths (arguments : List Text) : List Text :=
  match Flag.parse Flag.all arguments with
  | .error _ => []
  | .ok (uses, _) =>
    match (Flag.text? uses .config).filter (· ≠ []) with
    | some path => [path]
    | none => Settings.searchedNames

/-- The paths in which documents are searched. -/
def searchedPaths (arguments : List Text) : List Text :=
  match Flag.parse Flag.all arguments with
  | .error _ => []
  | .ok (_, operands) => (Plan.arguments operands).filter (· ≠ stdinName)

/-- The names of the documents that are read. The content of files other than the configuration
does not matter for them. -/
def documents (w : World) (arguments : List Text) : List Text :=
  match Flag.parse Flag.all arguments with
  | .error _ => []
  | .ok (uses, operands) =>
    match Plan.make w uses operands with
    | .error _ => []
    | .ok p => p.names

/-- Whether standard input is read. Help does not read it. -/
def readsInput (w : World) (arguments : List Text) : Bool :=
  match Flag.parse Flag.all arguments with
  | .error _ => false
  | .ok (uses, operands) =>
    !Flag.isOn uses .help && !operands.head?.any isHelp &&
      (documents w arguments).contains stdinName

end StructuralLint.Command
