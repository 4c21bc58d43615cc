import StructuralLint.Document.Source
import StructuralLint.Files.Path

/-!
# File systems

A file system is a finite list of entries, each at a location: the components of its path from
the root. Looking a path up follows symbolic links component by component, as an operating
system does, so `..` goes to the parent of the directory reached so far.

A `World` is a file system seen by a running program: with a working directory (which may have
been removed), environment variables and standard input.
-/

namespace StructuralLint

/-- Where an entry is: components from the root. -/
abbrev Location := List Text

/-- What can be at a location. -/
inductive Entry where
  /-- A file with its content. -/
  | file (content : Text)
  /-- A directory. -/
  | directory
  /-- A symbolic link with its target. -/
  | link (target : Text)
  deriving DecidableEq, Repr, Inhabited

/-- Whether an entry is a directory itself. -/
def Entry.isDirectory : Entry → Bool
  | directory => true
  | _ => false

/-- Why the system refuses a path. -/
inductive SystemError where
  | noSuchEntry
  | notDirectory
  | isDirectory
  | nameTooLong
  | invalidArgument
  | tooManyLinks
  deriving DecidableEq, Repr

/-- The wording of a refusal. -/
def SystemError.message : SystemError → String
  | noSuchEntry => "no such file or directory"
  | notDirectory => "not a directory"
  | isDirectory => "is a directory"
  | nameTooLong => "file name too long"
  | invalidArgument => "invalid argument"
  | tooManyLinks => "too many levels of symbolic links"

/-- A refused operation on a path. -/
structure PathError where
  /-- The operation. -/
  operation : String
  /-- The path as given. -/
  path : Text
  /-- Why it was refused. -/
  cause : SystemError
  deriving DecidableEq, Repr

/-- The wording of a refused operation. -/
def PathError.message (e : PathError) : Text :=
  Text.ofString e.operation ++ Text.ofString " " ++ e.path ++ Text.ofString ": " ++
    Text.ofString e.cause.message

/-- A file system; the root is always there. -/
structure FileSystem where
  /-- The entries other than the root, each location once. -/
  entries : List (Location × Entry) := []
  deriving DecidableEq, Repr, Inhabited

namespace FileSystem

/-- What is at a location. -/
def get? (fs : FileSystem) (l : Location) : Option Entry :=
  if l.isEmpty then some .directory else fs.entries.lookup l

/-- Puts an entry at a location. -/
def put (fs : FileSystem) (l : Location) (e : Entry) : FileSystem :=
  ⟨(l, e) :: fs.entries.filter (·.1 ≠ l)⟩

/-- Makes a directory and those above it, where there is nothing yet. -/
def makeDirectories (fs : FileSystem) (l : Location) : FileSystem :=
  (List.range (l.length + 1)).foldl
    (fun fs n => if (fs.get? (l.take n)).isSome then fs else fs.put (l.take n) .directory) fs

/-- Puts an entry at a location and makes the directories above it. -/
def create (fs : FileSystem) (l : Location) (e : Entry) : FileSystem :=
  (fs.makeDirectories l.dropLast).put l e

/-- Removes what is at a location and everything below it. -/
def remove (fs : FileSystem) (l : Location) : FileSystem :=
  ⟨fs.entries.filter (fun e => !l.isPrefixOf e.1)⟩

/-- The entries right below a location, sorted by name. -/
def children (fs : FileSystem) (l : Location) : List (Text × Entry) :=
  let below := fs.entries.filterMap fun (k, e) =>
    match k.getLast? with
    | some name => if k.dropLast = l then some (name, e) else none
    | none => none
  below.mergeSort (fun a b => Text.byteLe a.1 b.1)

/-- The greatest number of links that one look-up follows. -/
def linkLimit : Nat := 40

/-- The greatest number of bytes in one name. -/
def nameLimit : Nat := 255

/-- The number of bytes that is too many for a path. -/
def pathLimit : Nat := 4096

/-- The components of a path to follow one by one; a final slash asks for a directory. -/
def steps (path : Text) : List Text :=
  let parts := Text.splitOn '/' path
  let asksDirectory := parts.getLast? = some []
  parts.filter (· ≠ []) ++ (if asksDirectory then [Path.here] else [])

/-- Follows components from a location. A link at the very end is followed only if `follow`
says so; `links` bounds the number of links followed. -/
def followSteps (fs : FileSystem) (follow : Bool) (links : Nat) (place : Location)
    (parts : List Text) : Except SystemError Location :=
  match parts with
  | [] => .ok place
  | part :: rest =>
    if fs.get? place ≠ some .directory then .error .notDirectory
    else if part = Path.here then followSteps fs follow links place rest
    else if part = Path.up then followSteps fs follow links place.dropLast rest
    else if nameLimit < part.size then .error .nameTooLong
    else
      match fs.get? (place ++ [part]) with
      | none => .error .noSuchEntry
      | some (.link target) =>
        if rest.isEmpty && !follow then .ok (place ++ [part])
        else
          match links with
          | 0 => .error .tooManyLinks
          | links + 1 =>
            if target.isEmpty then .error .noSuchEntry
            else
              followSteps fs follow links (if Path.isAbsolute target then [] else place)
                (steps target ++ rest)
      | some _ => followSteps fs follow links (place ++ [part]) rest
termination_by (links, parts.length)

end FileSystem

/-- What a program can see. -/
structure World where
  /-- The file system. -/
  files : FileSystem := {}
  /-- The working directory; `none` once it has been removed. -/
  workingDirectory : Option Location := some []
  /-- The environment variables. -/
  environment : List (Text × Text) := []
  /-- Standard input. -/
  input : Source := ⟨[], none⟩
  deriving DecidableEq, Repr, Inhabited

namespace World

/-- What a path leads to. The removed working directory has no location. -/
def find (w : World) (follow : Bool) (path : Text) : Except SystemError (Option Location) :=
  if path.any (Rune.isChar '\x00') then .error .invalidArgument
  else if path.isEmpty then .error .noSuchEntry
  else if FileSystem.pathLimit ≤ path.size then .error .nameTooLong
  else
    let parts := FileSystem.steps path
    if Path.isAbsolute path then
      (w.files.followSteps follow FileSystem.linkLimit [] parts).map some
    else
      match w.workingDirectory with
      | some dir => (w.files.followSteps follow FileSystem.linkLimit dir parts).map some
      | none => if parts.all (· = Path.here) then .ok none else .error .noSuchEntry

/-- Looks a path up on behalf of an operation. -/
def lookUp (w : World) (operation : String) (follow : Bool) (path : Text) :
    Except PathError (Option Location × Entry) :=
  match w.find follow path with
  | .error e => .error ⟨operation, path, e⟩
  | .ok none => .ok (none, .directory)
  | .ok (some l) =>
    match w.files.get? l with
    | some e => .ok (some l, e)
    | none => .error ⟨operation, path, .noSuchEntry⟩

/-- Whether a path leads to a directory, links followed. -/
def isDirectory (w : World) (path : Text) : Except PathError Bool :=
  (w.lookUp "stat" true path).map (·.2.isDirectory)

/-- Opens a path for reading. A directory can be opened and fails when it is read. -/
def openFile (w : World) (path : Text) : Except PathError Source :=
  (w.lookUp "open" true path).map fun (_, e) =>
    match e with
    | .file content => ⟨content, none⟩
    | _ => ⟨[], some (PathError.message ⟨"read", path, .isDirectory⟩)⟩

/-- The names in a directory, sorted, each with what it is. -/
def readDirectory (w : World) (path : Text) : Except PathError (List (Text × Entry)) := do
  match ← w.lookUp "open" true path with
  | (none, _) => .error ⟨"readdirent", path, .noSuchEntry⟩
  | (some l, .directory) => .ok (w.files.children l)
  | (some _, _) => .error ⟨"readdirent", path, .notDirectory⟩

/-- Everything below a path that is no directory, depth first and in the order of names. Links
are listed and not followed. `fuel` bounds the depth. -/
def walkFrom (w : World) : (fuel : Nat) → (path : Text) → Entry → Except PathError (List Text)
  | 0, _, _ => .ok []
  | fuel + 1, path, e =>
    if e.isDirectory then do
      let below ← (← w.readDirectory path).mapM fun (name, child) =>
        w.walkFrom fuel (Path.join path name) child
      return below.flatten
    else .ok [path]

/-- Everything at or below a path that is no directory. -/
def walk (w : World) (path : Text) : Except PathError (List Text) := do
  let (_, e) ← w.lookUp "lstat" false path
  w.walkFrom (w.files.entries.length + 2) path e

/-- A relative path has no meaning: the working directory is gone. -/
structure NoWorkingDirectory where
  deriving DecidableEq, Repr

/-- The wording of a missing working directory. -/
def NoWorkingDirectory.message (_ : NoWorkingDirectory) : Text :=
  "getwd: no such file or directory"

/-- The value of an environment variable. -/
def getVariable? (w : World) (name : Text) : Option Text :=
  w.environment.lookup name

/-- Whether an absolute path leads to a location. -/
def isNameOf (w : World) (l : Location) (path : Text) : Bool :=
  Path.isAbsolute path &&
    match w.find true path with
    | .ok (some found) => found = l
    | _ => false

/-- What the working directory is called: the value of `PWD`, if that is a name of it, and otherwise
the path without links. -/
def workingDirectoryName? (w : World) : Option Text :=
  w.workingDirectory.map fun dir =>
    ((w.getVariable? "PWD").filter (w.isNameOf dir)).getD (Path.text ⟨true, dir⟩)

/-- The clean absolute form of a path. It is made of texts alone, so that `..` takes a name off what
the working directory is called. -/
def absolute (w : World) (path : Text) : Except NoWorkingDirectory Text :=
  if Path.isAbsolute path then .ok (Path.clean path)
  else
    match w.workingDirectoryName? with
    | some dir => .ok (Path.join dir path)
    | none => .error {}

/-- The location that a path is meant to be at, without following links. -/
def locationOf (w : World) (path : Text) : Location :=
  if Path.isAbsolute path then (Path.ofText path).parts
  else
    match w.workingDirectory with
    | some dir => (Path.ofText (Path.join (Path.text ⟨true, dir⟩) path)).parts
    | none => (Path.ofText path).parts

/-- The world after a file has been written. -/
def writeFile (w : World) (path content : Text) : World :=
  let l := match w.find true path with
    | .ok (some l) => l
    | _ => w.locationOf path
  { w with files := w.files.create l (.file content) }

/-- The world after a path has been removed, with everything below it. -/
def removeAll (w : World) (path : Text) : World :=
  let l := w.locationOf path
  { w with
    files := w.files.remove l
    workingDirectory := w.workingDirectory.filter fun dir => !l.isPrefixOf dir }

/-- The world after standard input has been read. -/
def drainInput (w : World) : World :=
  { w with input := w.input.rest }

end World

end StructuralLint
