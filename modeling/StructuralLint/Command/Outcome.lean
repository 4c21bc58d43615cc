import StructuralLint.Command.Error
import StructuralLint.Log.Logger
import StructuralLint.Report.Sink

/-!
# What a run leaves behind

A run leaves what it wrote, what it logged, and a verdict or a failure. The exit code and the line
on standard error say the latter once more.
-/

namespace StructuralLint

/-- What a run that did not fail has to say. -/
inductive Verdict where
  /-- There is nothing to report. -/
  | clean
  /-- There are findings. -/
  | findings
  deriving DecidableEq, Repr

/-- What a run leaves behind. -/
structure Outcome where
  /-- The verdict, or why the run failed. -/
  result : Except CommandError Verdict
  /-- Standard output. -/
  output : Sink
  /-- The logger, if the run got that far. -/
  logger : Option Logger := none
  /-- What was logged. -/
  entries : List LogEntry := []

namespace Outcome

/-- The exit code. -/
def code (o : Outcome) : Nat :=
  match o.result with
  | .ok .clean => 0
  | .ok .findings => 1
  | .error _ => 2

/-- What is written to standard error, the log aside. -/
def errorText (o : Outcome) : Text :=
  match o.result with
  | .ok _ => []
  | .error e => Text.ofString "yamlint: " ++ e.message ++ Text.ofString "\n"

/-- The log. -/
def log (o : Outcome) : List LogEntry :=
  match o.logger with
  | none => []
  | some l => l.kept o.entries

/-- Whether the log is written for reading. -/
def isDevelopment (o : Outcome) : Bool :=
  o.logger.any (·.isDevelopment)

end Outcome

end StructuralLint
