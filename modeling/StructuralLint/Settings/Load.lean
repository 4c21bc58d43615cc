import StructuralLint.Files.System
import StructuralLint.Json.Read
import StructuralLint.Settings.Basic
import StructuralLint.Settings.Dotenv
import StructuralLint.Text.Quoted
import StructuralLint.Toml.Document
import StructuralLint.Yaml.Decode

/-!
# Loading settings

A configuration file given by its path must be there, and its extension says how it is written.
Without a path, the working directory is searched for `.yamlint` with any known extension and
then without one. A name that leads to no file, for whatever reason, is passed over; what is found
is read as YAML, and finding nothing is no error.
-/

namespace StructuralLint

/-- How a configuration file is written. -/
inductive ConfigLanguage where
  | yaml
  | json
  | toml
  | dotenv
  deriving DecidableEq, Repr

/-- Why a configuration text cannot be read. -/
inductive ParseError where
  /-- There is nothing to read this kind of file. -/
  | noReader
  | yaml (error : Yaml.DecodeError)
  | json (error : JsonError)
  | toml (error : Toml.ReadError)
  | dotenv (error : Dotenv.ReadError)
  deriving DecidableEq, Repr

/-- The wording of an error. -/
def ParseError.message : ParseError → Text
  | noReader => "decoder not found for this format"
  | yaml e => e.message
  | json e => e.message
  | toml e => e.message
  | dotenv e => e.message

/-- Why a configuration file cannot be used. -/
inductive ConfigError where
  /-- Its extension is not known. -/
  | unsupported (extension : Text)
  /-- It cannot be opened. -/
  | unopened (error : PathError)
  /-- It cannot be read. -/
  | unreadable (message : Text)
  /-- It cannot be understood. -/
  | malformed (error : ParseError)
  deriving DecidableEq, Repr

/-- The wording of an error. -/
def ConfigError.message : ConfigError → Text
  | unsupported extension =>
    Text.ofString "Unsupported Config Type " ++ extension.quoted
  | unopened e => e.message
  | unreadable m => m
  | malformed e => Text.ofString "While parsing config: " ++ e.message

/-- Why settings cannot be loaded. -/
structure LoadError where
  /-- The path that was given, if any. -/
  path : Option Text
  /-- What is wrong with the file. -/
  cause : ConfigError
  deriving DecidableEq, Repr

/-- The wording of an error. -/
def LoadError.message (e : LoadError) : Text :=
  Text.ofString "failed to read config" ++
    (match e.path with
      | some path => .char ' ' :: path
      | none => []) ++
    Text.ofString ": " ++ e.cause.message

namespace ConfigLanguage

/-- The known extensions, in the order of the search, each with how such a file is written if
it can be read. -/
def extensions : List (String × Option ConfigLanguage) :=
  [("json", some json), ("toml", some toml), ("yaml", some yaml), ("yml", some yaml),
   ("properties", none), ("props", none), ("prop", none), ("hcl", none), ("tfvars", none),
   ("dotenv", some dotenv), ("env", some dotenv), ("ini", none)]

/-- The entries of a configuration text. -/
def parse (language : ConfigLanguage) (environment : List (Text × Text)) (content : Text) :
    Except ParseError (List (Text × Value)) :=
  match language with
  | yaml => (Yaml.decode content.toBytes).mapError .yaml
  | json => (Json.entries content.toBytes).mapError .json
  | toml => (Toml.entries content).mapError .toml
  | dotenv => (Dotenv.entries environment content).mapError .dotenv

end ConfigLanguage

namespace Settings

/-- The content of a file. -/
def readWhole (w : World) (path : Text) : Except ConfigError Text :=
  match w.openFile path with
  | .error e => .error (.unopened e)
  | .ok source =>
    match source.failure with
    | some m => .error (.unreadable m)
    | none => .ok source.text

/-- The entries of the file at a path, written in the given language. -/
def entriesAt (w : World) (path : Text) (language : Option ConfigLanguage) :
    Except ConfigError (List (Text × Value)) := do
  let content ← readWhole w path
  match language with
  | none => .error (.malformed .noReader)
  | some language =>
    let entries ← (language.parse w.environment content).mapError .malformed
    return lowerKeys (loweredEntries entries)

/-- The entries of the file at a path that was given. -/
def entriesOf (w : World) (path : Text) : Except ConfigError (List (Text × Value)) :=
  let extension := (Path.extension path).drop 1
  match ConfigLanguage.extensions.find? fun e => extension = Text.ofString e.1 with
  | none => .error (.unsupported extension)
  | some (_, language) => entriesAt w path language

/-- The names of configuration files that are looked for, in order. -/
def searchedNames : List Text :=
  (ConfigLanguage.extensions.map fun e => Text.ofString (".yamlint." ++ e.1)) ++
    [Text.ofString ".yamlint"]

/-- Whether a path leads to a file. -/
def isFile (w : World) (path : Text) : Bool :=
  match w.lookUp "stat" true path with
  | .ok (_, .file _) => true
  | _ => false

/-- The entries of the file that the search finds; none if it finds nothing. -/
def foundEntries (w : World) : Except ConfigError (List (Text × Value)) :=
  match w.absolute Path.here with
  | .error _ => .ok []
  | .ok dir =>
    match (searchedNames.map (Path.join dir)).find? (isFile w) with
    | none => .ok []
    | some path => entriesAt w path (some .yaml)

/-- Loads the settings; the empty path asks for a search. -/
def load (w : World) (path : Text) : Except LoadError Settings :=
  let entries := if path.isEmpty then foundEntries w else entriesOf w path
  match entries with
  | .error cause => .error ⟨if path.isEmpty then none else some path, cause⟩
  | .ok entries => .ok (ofSources { environment := w.environment, entries })

end Settings

end StructuralLint
