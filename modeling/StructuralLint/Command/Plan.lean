import StructuralLint.Command.Error
import StructuralLint.Log.Logger

/-!
# What a run will do

A plan is everything that is decided before the first document is read: the settings in force,
the output format, the logger and the names of the documents. Each setting is taken from its own
flag if that is given, and from the loaded settings otherwise.
-/

namespace StructuralLint

/-- The settings in force under some flags. A number of workers counts only if it is positive. -/
def Settings.withFlags (s : Settings) (uses : List FlagUse) : Settings :=
  { s with
    format := (Flag.text? uses .format).getD s.format
    legacyLineNumbers := (Flag.switch? uses .legacyLineNumbers).getD s.legacyLineNumbers
    zeroIndentFallback :=
      ((Flag.switch? uses .noZeroIndentFallback).map (!·)).getD s.zeroIndentFallback
    logLevel := (Flag.text? uses .logLevel).getD s.logLevel
    workers :=
      (((Flag.number? uses .workers).filter (0 < ·)).map Int64.ofInt).getD s.workers }

/-- What a run will do. -/
structure Plan where
  /-- The settings in force. -/
  settings : Settings
  /-- How reports are written. -/
  format : Format
  /-- What the log keeps. -/
  logger : Logger
  /-- The documents, in order. -/
  names : List Text
  /-- Whether outlines are dumped instead of documents being linted. -/
  isDump : Bool
  deriving DecidableEq, Repr

namespace Plan

/-- How files are found under some settings. -/
def optionsOf (s : Settings) : FileOptions :=
  ({} : FileOptions).replacedBy s.extensions []

/-- How files are found. -/
def options (p : Plan) : FileOptions :=
  optionsOf p.settings

/-- How documents are linted. -/
def linter (p : Plan) : Linter :=
  { zeroIndentFallback := p.settings.zeroIndentFallback
    legacyLineNumbers := p.settings.legacyLineNumbers }

/-- A file linter that has not been asked for anything. -/
def fileLinter (p : Plan) : FileLinter :=
  { options := p.options, linter := p.linter }

/-- The arguments in force: without any, standard input is linted. -/
def arguments (operands : List Text) : List Text :=
  if operands.isEmpty then [stdinName] else operands

/-- The plan for some flags and operands. -/
def make (w : World) (uses : List FlagUse) (operands : List Text) : Except CommandError Plan := do
  let loaded ← (Settings.load w ((Flag.text? uses .config).getD [])).mapError .settings
  let settings := loaded.withFlags uses
  let format ← (Format.parse settings.format).mapError .format
  let threshold ← (Level.parse settings.logLevel).mapError .level
  let names ← ((optionsOf settings).expand w (arguments operands)).mapError .expansion
  return { settings, format, logger := ⟨threshold, settings.logDevelopment⟩, names,
           isDump := Flag.isOn uses .dumpTree }

/-- The entry that says what the arguments came to. -/
def resolvedEntry (p : Plan) : LogEntry :=
  ⟨.debug, "resolved inputs",
    [("files", .count p.names.length), ("workers", .count p.settings.workers.toInt)]⟩

end Plan

end StructuralLint
