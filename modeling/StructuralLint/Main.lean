import StructuralLint.Command.Inputs
import StructuralLint.Log.Written

/-!
# The program

Everything that touches the real world: what the run will look at is copied into a `World`, the
run itself is a function of that, and what it leaves behind is written out. Directories are copied
without the content of their files; the content of a file is copied once the run is known to
read it.
-/

namespace StructuralLint.Snapshot

/-- The location of an absolute path without links. -/
def locationOf (path : String) : Location :=
  (Path.ofText (Text.ofString path)).parts

/-- The path of a location, if the system can be asked for it. -/
def pathOf? (l : Location) : Option String :=
  (Path.text ⟨true, l⟩).toString?

/-- A directory entry of the system. -/
def entryAt (path : String) : IO.FS.DirEntry :=
  ⟨path, "."⟩

/-- The content of a file; nothing if it cannot be read. -/
def contentOf (path : String) : IO Text := do
  match ← (IO.FS.readBinFile path).toBaseIO with
  | .ok bytes => return Text.ofBytes bytes.toList
  | .error _ => return []

/-- The place that a link leads to; nothing if it leads nowhere. -/
def targetOf (path : String) : IO Text := do
  match ← (IO.FS.realPath path).toBaseIO with
  | .ok target => return Text.ofString target.toString
  | .error _ => return []

/-- What the system has at a path, links not followed. -/
def lookAt (path : String) (withContent : Bool) : IO (Option Entry) := do
  match ← (entryAt path).root.symlinkMetadata.toBaseIO with
  | .error _ => return none
  | .ok found =>
    match found.type with
    | .dir => return some .directory
    | .symlink => return some (.link (← targetOf path))
    | .file | .other => return some (.file (← if withContent then contentOf path else pure []))

/-- Copies what a path passes through and leads to, from a location on. -/
partial def copyPath (fs : FileSystem) (place : Location) (parts : List Text) : IO FileSystem := do
  match parts with
  | [] => return fs
  | part :: rest =>
    if part = Path.here then copyPath fs place rest
    else if part = Path.up then copyPath fs place.dropLast rest
    else
      let next := place ++ [part]
      let some path := pathOf? next | return fs
      match ← lookAt path rest.isEmpty with
      | none => return fs
      | some .directory => copyPath (fs.makeDirectories next) next rest
      | some (.file content) => return fs.create next (.file content)
      | some (.link target) =>
        let fs := fs.create next (.link target)
        if target.isEmpty then return fs else copyPath fs [] (FileSystem.steps target ++ rest)

/-- The entries below a directory. -/
partial def entriesBelow (place : Location) : IO (List (Location × Entry)) := do
  let some path := pathOf? place | return []
  match ← (entryAt path).root.readDir.toBaseIO with
  | .error _ => return []
  | .ok children =>
    let mut all := []
    for child in children do
      let next := place ++ [Text.ofString child.fileName]
      if let some e ← lookAt child.path.toString false then
        all := (next, e) :: all
        if e.isDirectory then all := (← entriesBelow next) ++ all
    return all

/-- The location that a path starts from. -/
def startOf (w : World) (path : Text) : Location :=
  if Path.isAbsolute path then [] else w.workingDirectory.getD []

/-- Copies what a path leads to. -/
def addPath (w : World) (path : Text) : IO World := do
  return { w with files := ← copyPath w.files (startOf w path) (FileSystem.steps path) }

/-- Copies what a path leads to, and everything below it if that is a directory. -/
def addTree (w : World) (path : Text) : IO World := do
  let w ← addPath w path
  match w.lookUp "stat" true path with
  | .ok (some place, .directory) =>
    let below ← entriesBelow place
    return { w with files := ⟨below ++ ((w.files.remove place).makeDirectories place).entries⟩ }
  | _ => return w

/-- The environment variables. -/
def environment : IO (List (Text × Text)) := do
  let text ← contentOf "/proc/self/environ"
  return (Text.splitOn '\x00' text).filterMap fun entry =>
    match Text.cut '=' entry with
    | (name, some value) => some (name, value)
    | (_, none) => none

/-- Reads a stream to its end. -/
partial def readAll (stream : IO.FS.Stream) (sofar : ByteArray) : IO ByteArray := do
  let bytes ← stream.read 65536
  if bytes.isEmpty then return sofar else readAll stream (sofar ++ bytes)

/-- Standard input. -/
def input : IO Source := do
  match ← (do readAll (← IO.getStdin) ByteArray.empty : IO ByteArray).toBaseIO with
  | .ok bytes => return ⟨Text.ofBytes bytes.toList, none⟩
  | .error e => return ⟨[], some (Text.ofString e.toString)⟩

/-- Everything that a run with these arguments looks at. -/
def take (arguments : List Text) : IO World := do
  let dir := locationOf (← IO.currentDir).toString
  let w : World :=
    { files := (FileSystem.mk []).makeDirectories dir, workingDirectory := some dir,
      environment := ← environment }
  let w ← (w.getVariable? "PWD").toList.foldlM addPath w
  let w ← (Command.searchedPaths arguments).foldlM addTree w
  let w ← (Command.configPaths arguments).foldlM addPath w
  let w ← ((Command.documents w arguments).filter (· ≠ stdinName)).foldlM addPath w
  if Command.readsInput w arguments then return { w with input := ← input } else return w

/-- Writes a text to a stream. -/
def write (stream : IO.FS.Stream) (t : Text) : IO Unit := do
  stream.write ⟨t.toBytes.toArray⟩
  stream.flush

/-- Runs the program: its exit code is the outcome's. -/
def run (arguments : List Text) : IO UInt32 := do
  let outcome := Command.run (← take arguments) {} arguments
  write (← IO.getStdout) outcome.output.content
  for entry in outcome.log do
    let line := if outcome.isDevelopment then entry.readableLine else entry.jsonLine
    write (← IO.getStderr) (line ++ [.char '\n'])
  write (← IO.getStderr) outcome.errorText
  return UInt32.ofNat outcome.code

end StructuralLint.Snapshot

/-- The command line. -/
def main (arguments : List String) : IO UInt32 :=
  StructuralLint.Snapshot.run (arguments.map StructuralLint.Text.ofString)
