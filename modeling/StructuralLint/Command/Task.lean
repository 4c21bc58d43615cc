import StructuralLint.Command.Plan

/-!
# Linting the documents of a plan

Each document is a task of its own, with a file linter that nobody else uses, so the tasks may be
done at the same time. All of them are done, also after a failure. `doTask` does one alone, and
`collect` puts the reports back into the order of the documents; if some tasks failed, the first that
did so, in the order in which they returned, is the failure of the whole.
-/

namespace StructuralLint

/-- A document to be linted: its place among the documents, and its name. -/
structure Task where
  /-- The place, from zero. -/
  position : Nat
  /-- The name. -/
  name : Text
  deriving DecidableEq, Repr

/-- The tasks for some names, in their order. -/
def Task.ofNames (names : List Text) : List Task :=
  names.zipIdx.map fun (name, position) => ⟨position, name⟩

/-- A task and what became of it. -/
structure TaskResult where
  /-- The task. -/
  task : Task
  /-- The report, and what linting left in the log. -/
  result : Except FileError (Report × Trace)

namespace TaskResult

/-- Why the task failed, if it did. -/
def failure? (t : TaskResult) : Option FileError :=
  match t.result with
  | .ok _ => none
  | .error e => some e

/-- The report, if there is one. -/
def report? (t : TaskResult) : Option Report :=
  match t.result with
  | .ok (report, _) => some report
  | .error _ => none

/-- What the task leaves in the log; a failed one leaves nothing. -/
def entries (t : TaskResult) : List LogEntry :=
  match t.result with
  | .ok (report, trace) =>
    [trace.entry,
     ⟨.debug, "linted file",
       [("path", .text t.task.name), ("diagnostics", .count report.diagnostics.length)]⟩]
  | .error _ => []

end TaskResult

namespace FileLinter

/-- Does one task alone: the world after it, and what became of it. What the file linter would remember
is lost. -/
def doTask (f : FileLinter) (w : World) (task : Task) : World × TaskResult :=
  if task.name = stdinName then
    (w.drainInput, ⟨task, f.lintSourceTraced task.name w.input⟩)
  else (w, ⟨task, (f.lintFileTraced w task.name).2⟩)

end FileLinter

/-- The tasks of a plan, in the order of the documents. -/
def Plan.tasks (p : Plan) : List Task :=
  Task.ofNames p.names

namespace TaskResult

/-- The reports of tasks in a given order, or the first failure among what was done. -/
def collect (tasks : List Task) (done : List TaskResult) : Except FileError (List Report) :=
  match done.findSome? failure? with
  | some e => .error e
  | none =>
    .ok (tasks.filterMap fun task =>
      done.findSome? fun t => if t.task.position = task.position then t.report? else none)

end TaskResult

end StructuralLint
