import StructuralLint.Command.Flag
import StructuralLint.Files.Linter
import StructuralLint.Log.Level
import StructuralLint.Report.Render
import StructuralLint.Settings.Load

/-!
# Failed runs
-/

namespace StructuralLint

/-- Why a run of the program fails. -/
inductive CommandError where
  /-- The flags cannot be understood. -/
  | usage (error : UsageError)
  /-- There is no help about this. -/
  | noHelpTopic (topic : Text)
  /-- The settings cannot be loaded. -/
  | settings (error : LoadError)
  /-- There is no such output format. -/
  | format (error : FormatError)
  /-- There is no such log level. -/
  | level (error : LevelError)
  /-- The arguments cannot be expanded. -/
  | expansion (error : ExpandError)
  /-- A document cannot be linted. -/
  | file (error : FileError)
  /-- The reports cannot be written. -/
  | rendering (error : RenderError)
  /-- Standard input cannot be dumped. -/
  | unreadInput (error : ReadError)
  /-- A file cannot be dumped. -/
  | unreadFile (name : Text) (error : FileError)
  /-- A document to be dumped has no outline. -/
  | noOutline (name : Text) (error : TabError)
  deriving DecidableEq, Repr

/-- The wording of a failure. -/
def CommandError.message : CommandError → Text
  | usage e => e.message
  | noHelpTopic topic => Text.ofString "No help topic for '" ++ topic ++ Text.ofString "'"
  | settings e => e.message
  | format e => e.messageWithChoices
  | level e => e.message
  | expansion e => e.message
  | file e => e.message
  | rendering e => Text.ofString "failed to render report: " ++ e.message
  | unreadInput e => stdinName ++ Text.ofString ": " ++ e.message
  | unreadFile name e => name ++ Text.ofString ": " ++ e.message
  | noOutline name e => name ++ Text.ofString ": " ++ e.message

end StructuralLint
