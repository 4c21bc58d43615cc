import StructuralLint.Document.Classify
import StructuralLint.Document.Scanner
import StructuralLint.Lint.Delimiter
import StructuralLint.Lint.Structure

/-!
# The linter

Linting a document reports its markers first and its structure second. A tab in the leading
indentation of any line is reported alone, as the one fatal finding. Each linted document
leaves one trace entry, which a logger may keep.
-/

namespace StructuralLint

/-- Why a document could not be analysed, possibly with context around the cause. -/
structure BuildError where
  /-- The tab at the bottom of the error, if that is the cause. -/
  tab : Option TabError
  /-- The whole message. -/
  message : Text
  deriving DecidableEq, Repr

/-- The wording of a tab error. -/
def TabError.message (e : TabError) : Text :=
  Text.ofString "line " ++ Text.ofInt e.line.toInt ++ Text.ofString ": " ++
    Rule.tabIndentation.explanation

/-- A tab error as it is, without context. -/
def BuildError.ofTab (e : TabError) : BuildError :=
  ⟨some e, e.message⟩

/-- What linting one document leaves in the log. -/
inductive Trace where
  /-- The document was analysed. -/
  | linted (lines nodes diagnostics : Nat)
  /-- A tab stopped the analysis. -/
  | aborted (error : TabError)
  deriving DecidableEq, Repr

/-- The settings of a linter. -/
structure Linter extends Classifier where
  /-- Whether structural findings are numbered by position and tabs one line further down. -/
  legacyLineNumbers : Bool := false

namespace Linter

/-- The numbering of structural findings. -/
def numbering (l : Linter) : Numbering :=
  if l.legacyLineNumbers then .position else .sourceLine

/-- The one finding of a document that could not be analysed. -/
def fatalDiagnostic (l : Linter) (e : BuildError) : Diagnostic :=
  match e.tab with
  | some tab =>
    ⟨if l.legacyLineNumbers then tab.line + 1 else tab.line, Rule.tabIndentation.code, .fatal,
      Rule.tabIndentation.explanation⟩
  | none => ⟨1, Rule.tabIndentation.code, .fatal, e.message⟩

/-- Lints a document and says what happened. -/
def lintTraced (l : Linter) (lines : List Line) : List Diagnostic × Trace :=
  match l.outline lines with
  | .error tab => ([l.fatalDiagnostic (.ofTab tab)], .aborted tab)
  | .ok outline =>
    let diagnostics := checkMarkers lines ++ outline.validate l.numbering
    (diagnostics, .linted lines.length outline.length diagnostics.length)

/-- The findings of a document. -/
def lint (l : Linter) (lines : List Line) : List Diagnostic :=
  (l.lintTraced lines).1

/-- The findings of an in-memory document. -/
def lintText (l : Linter) (document : Text) : List Diagnostic :=
  l.lint (Line.split document)

/-- The findings of a source, if it can be read to its end. -/
def lintSource (l : Linter) (source : Source) : Except ReadError (List Diagnostic) :=
  match source.read with
  | (_, some e) => .error e
  | (lines, none) => .ok (l.lint lines)

/-- The findings of what a reader yields, if it can be read to its end. -/
def lintReader (l : Linter) (r : Reader) : Except ReadError (List Diagnostic) :=
  match (Scanner.ofReader r).readLines with
  | (_, some e) => .error e
  | (lines, none) => .ok (l.lint lines)

end Linter

/-- The wording of a document that could not be read. -/
def ReadError.documentMessage (e : ReadError) : Text :=
  Text.ofString "failed to read document: " ++ e.message

end StructuralLint
