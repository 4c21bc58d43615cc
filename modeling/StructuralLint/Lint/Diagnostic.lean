import StructuralLint.Text.Basic

/-!
# Diagnostics

A diagnostic is one finding: a line number, the code of the rule it breaks, a severity and a
message. Codes and severities are open vocabularies (a report may come from elsewhere); `Rule`
lists the rules of this library, each with its code and its message.
-/

namespace StructuralLint

/-- The rules this library checks. -/
inductive Rule where
  /-- A tab in the leading indentation. -/
  | tabIndentation
  /-- An odd number of leading spaces. -/
  | indentationNotEven
  /-- A list item with nothing before it. -/
  | orphanListItem
  /-- A key that is followed by something other than a list item. -/
  | keyMissingChild
  /-- A first start marker that is not on the first line. -/
  | misplacedStart
  /-- An end marker that is not on the last line. -/
  | misplacedEnd
  /-- A document with end markers whose last line is none. -/
  | endNotLastLine
  deriving DecidableEq, Repr

/-- The code of a rule, as reports show it. -/
structure Code where
  /-- How the code is written. -/
  name : Text
  deriving DecidableEq, Repr, Inhabited

namespace Rule

/-- The code of the rule. -/
def code : Rule → Code
  | tabIndentation => ⟨"tab-indentation"⟩
  | indentationNotEven => ⟨"indentation-not-even"⟩
  | orphanListItem => ⟨"orphan-list-item"⟩
  | keyMissingChild => ⟨"key-missing-child"⟩
  | misplacedStart => ⟨"misplaced-start"⟩
  | misplacedEnd => ⟨"misplaced-end"⟩
  | endNotLastLine => ⟨"end-not-last-line"⟩

/-- What a finding of the rule says. -/
def explanation : Rule → Text
  | tabIndentation => "Tabs are not allowed in YAML"
  | indentationNotEven => "Incorrect indentation level. Indentation must be a multiple of 2."
  | orphanListItem => "List item must be inside a valid list or under a parent key."
  | keyMissingChild =>
    "Key does not have a child. A key must be followed by a nested value or a list."
  | misplacedStart =>
    "Misplaced '---'. It should only appear at the start of the file or to separate documents."
  | misplacedEnd => "Misplaced '...'. It should only appear at the end of the file."
  | endNotLastLine => "'...' should be the last line of the file."

end Rule

/-- How bad a finding is. -/
structure Severity where
  /-- How the severity is written. -/
  name : Text
  deriving DecidableEq, Repr, Inhabited

namespace Severity

/-- An ordinary finding. -/
def error : Severity := ⟨"error"⟩

/-- A finding that stops the analysis of the document. -/
def fatal : Severity := ⟨"fatal"⟩

end Severity

/-- One finding. -/
structure Diagnostic where
  /-- The line it is reported at. -/
  line : Int64
  /-- The rule. -/
  code : Code
  /-- How bad it is. -/
  severity : Severity
  /-- What it says. -/
  message : Text
  deriving DecidableEq, Repr, Inhabited

namespace Diagnostic

/-- The ordinary finding of a rule at a line. -/
def ofRule (line : Int64) (rule : Rule) : Diagnostic :=
  ⟨line, rule.code, .error, rule.explanation⟩

/-- Whether the finding stops the analysis. -/
def isFatal (d : Diagnostic) : Bool :=
  d.severity = .fatal

end Diagnostic

/-- Whether some finding stops the analysis. -/
def hasFatal (diagnostics : List Diagnostic) : Bool :=
  diagnostics.any Diagnostic.isFatal

end StructuralLint
