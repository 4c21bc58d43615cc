import StructuralLint.Lint.Linter
import StructuralLint.Log.Level

/-!
# Log entries

A log entry is a level, a message and some named fields in the order they were given.
-/

namespace StructuralLint

/-- The value of a log field. -/
inductive FieldValue where
  /-- A count. -/
  | count (n : Int)
  /-- A text. -/
  | text (t : Text)
  deriving DecidableEq, Repr

/-- One log entry. -/
structure LogEntry where
  /-- How important it is. -/
  level : Level
  /-- What happened. -/
  message : String
  /-- The particulars, in order. -/
  fields : List (String × FieldValue)
  deriving DecidableEq, Repr

/-- The log entry that linting one document leaves. -/
def Trace.entry : Trace → LogEntry
  | linted lines nodes diagnostics =>
    ⟨.debug, "linted document",
      [("lines", .count lines), ("nodes", .count nodes), ("diagnostics", .count diagnostics)]⟩
  | aborted e => ⟨.debug, "aborting structural analysis", [("error", .text e.message)]⟩

/-- The entries that a logger at a level lets through. -/
def LogEntry.passing (threshold : Level) (entries : List LogEntry) : List LogEntry :=
  entries.filter (fun e => threshold.isEnabled e.level)

end StructuralLint
