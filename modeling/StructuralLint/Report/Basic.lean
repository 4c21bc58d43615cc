import StructuralLint.Lint.Diagnostic

/-!
# Reports

The outcome of linting some files: one report per file, and a summary over them.
-/

namespace StructuralLint

/-- The outcome of linting one file. -/
structure Report where
  /-- The name the file was asked for by. -/
  path : Text
  /-- Its findings. -/
  diagnostics : List Diagnostic
  deriving DecidableEq, Repr, Inhabited

namespace Report

/-- Whether there is any finding. -/
def hasErrors (r : Report) : Bool :=
  !r.diagnostics.isEmpty

/-- Whether a finding stopped the analysis of the file. -/
def isFatal (r : Report) : Bool :=
  hasFatal r.diagnostics

end Report

/-- What a run produced, in numbers. -/
structure Summary where
  /-- The number of reports. -/
  files : Nat
  /-- The number of findings over all of them. -/
  diagnostics : Nat
  /-- The number of reports with a fatal finding. -/
  fatal : Nat
  deriving DecidableEq, Repr, Inhabited

namespace Summary

/-- Counts reports. -/
def ofReports (reports : List Report) : Summary where
  files := reports.length
  diagnostics := reports.foldr (fun r n => r.diagnostics.length + n) 0
  fatal := reports.countP Report.isFatal

/-- Whether there is any finding. -/
def hasErrors (s : Summary) : Bool :=
  0 < s.diagnostics

end Summary

end StructuralLint
