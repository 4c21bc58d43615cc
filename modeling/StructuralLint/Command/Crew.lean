import StructuralLint.Command.Task

/-!
# A crew of workers

The tasks of a run are done by several workers at once. A task waits until a worker is free, is then
running, and returns at some point; the next one may start as soon as fewer tasks are running than
there are workers. A file is read by one task only, so it does not matter when. Standard input is
shared: each task that reads it takes what it gets, piece by piece, so that two of them divide it
between them in whatever way the pieces fall.

`Crew.Step` is one thing that can happen, and what a run of the crew comes to is any list of results
with which it can be done (`Crew.Completes`). Which of them it is, is not the program's choice; a
`Schedule` makes it. `Schedule.inTurn` is one in which tasks are done in order and those that read
standard input take turns.
-/

namespace StructuralLint

/-- A task that has a worker. -/
structure Job where
  /-- The task. -/
  task : Task
  /-- What it has read of standard input. -/
  read : List UInt8 := []
  deriving DecidableEq, Repr

namespace Job

/-- Whether it reads standard input. -/
def readsInput (job : Job) : Bool :=
  job.task.name = stdinName

/-- The number of bytes for which there is room in the line buffer, behind an unfinished line. -/
def room (job : Job) : Nat :=
  Source.lineLimit - (job.read.reverse.takeWhile (· ≠ 0x0A)).length

/-- The job after it has read some bytes. -/
def take (job : Job) (bytes : List UInt8) : Job :=
  { job with read := job.read ++ bytes }

/-- What it has read, as a source. If that is everything, it is the input as it was. -/
def source (job : Job) (input : Source) : Source :=
  if job.read = input.text.toBytes then input else { input with text := Text.ofBytes job.read }

/-- What becomes of the task when it returns: what it does alone, with what it has read as the input. -/
def result (f : FileLinter) (w : World) (job : Job) : TaskResult :=
  (f.doTask { w with input := job.source w.input } job.task).2

end Job

/-- A crew of workers, as far as it has got. -/
structure Crew where
  /-- What nobody has read yet of standard input. -/
  left : List UInt8
  /-- The tasks that wait for a worker. -/
  waiting : List Task
  /-- The tasks that have one. -/
  running : List Job := []
  /-- What became of the tasks that have returned, in the order of their return. -/
  finished : List TaskResult := []

namespace Crew

/-- A crew that has not started. -/
def ofTasks (w : World) (tasks : List Task) : Crew where
  left := w.input.text.toBytes
  waiting := tasks

/-- **What can happen next.** The order of those that are running means nothing. There is at least one
worker. -/
inductive Step (f : FileLinter) (w : World) (workers : Nat) : Crew → Crew → Prop
  /-- The next task gets a worker. -/
  | start {c : Crew} {task : Task} {rest : List Task} (hwaiting : c.waiting = task :: rest)
    (hfree : c.running.length < max workers 1) :
    Step f w workers c { c with waiting := rest, running := c.running ++ [⟨task, []⟩] }
  /-- A task takes a piece of standard input, as much as it gets and has room for. -/
  | take {c : Crew} {job : Job} {rest running : List Job} {n : Nat}
    (hrunning : c.running.Perm (job :: rest)) (hinput : job.readsInput = true) (hpos : 0 < n)
    (hroom : n ≤ job.room) (hleft : n ≤ c.left.length)
    (hnext : running.Perm (job.take (c.left.take n) :: rest)) :
    Step f w workers c { c with left := c.left.drop n, running }
  /-- A task returns. If it reads standard input, then that is at its end, or a line does not fit. -/
  | finish {c : Crew} {job : Job} {rest : List Job} (hrunning : c.running.Perm (job :: rest))
    (hend : job.readsInput = true → c.left = [] ∨ job.room = 0) :
    Step f w workers c { c with running := rest, finished := c.finished ++ [job.result f w] }

/-- What a crew can come to. -/
inductive Reaches (f : FileLinter) (w : World) (workers : Nat) : Crew → Crew → Prop
  /-- It stays as it is. -/
  | refl (c : Crew) : Reaches f w workers c c
  /-- Something happens first. -/
  | step {c next last : Crew} : Step f w workers c next → Reaches f w workers next last →
    Reaches f w workers c last

/-- Every task has returned. -/
structure IsDone (c : Crew) : Prop where
  /-- None waits. -/
  waiting_eq : c.waiting = []
  /-- None runs. -/
  running_eq : c.running = []

/-- **What may become of some tasks**, in the order of their return. -/
def Completes (f : FileLinter) (w : World) (workers : Nat) (tasks : List Task)
    (results : List TaskResult) : Prop :=
  ∃ c, Reaches f w workers (ofTasks w tasks) c ∧ c.IsDone ∧ c.finished = results

/-- What is left to happen at most. -/
def remaining (c : Crew) : Nat :=
  2 * c.waiting.length + c.running.length + c.left.length

variable {f : FileLinter} {w : World} {workers : Nat} {c next : Crew}

/-- **Whatever happens brings the end nearer.** -/
theorem Step.remaining_lt (h : Step f w workers c next) : next.remaining < c.remaining := by
  cases h with
  | start hwaiting =>
    simp only [remaining, hwaiting, List.length_cons, List.length_append, List.length_nil]
    omega
  | take hrunning _ hpos _ hleft hnext =>
    simp only [remaining, hrunning.length_eq, hnext.length_eq, List.length_cons, List.length_drop]
    omega
  | finish hrunning =>
    simp only [remaining, hrunning.length_eq, List.length_cons]
    omega

/-! ### Taking turns -/

/-- The first of those that are running acts: it returns if it can, and otherwise takes a piece of
standard input of at most `size + 1` bytes and lets the others that read it go first. -/
def act? (f : FileLinter) (w : World) (size : Nat) (c : Crew) : Option Crew :=
  match c.running with
  | [] => none
  | job :: rest =>
    if job.readsInput ∧ c.left ≠ [] ∧ 0 < job.room then
      let n := min (size + 1) (min job.room c.left.length)
      some { c with
        left := c.left.drop n
        running := rest.filter (·.readsInput) ++ job.take (c.left.take n) ::
          rest.filter (!·.readsInput) }
    else some { c with running := rest, finished := c.finished ++ [job.result f w] }

/-- The next task gets a worker as soon as one is free. -/
def turn? (f : FileLinter) (w : World) (workers size : Nat) (c : Crew) : Option Crew :=
  match c.waiting with
  | [] => c.act? f w size
  | task :: rest =>
    if c.running.length < max workers 1 then
      some { c with waiting := rest, running := c.running ++ [⟨task, []⟩] }
    else c.act? f w size

theorem step_of_act? {size : Nat} (h : c.act? f w size = some next) : Step f w workers c next := by
  rw [act?] at h
  split at h
  · cases h
  · next job rest hrunning =>
    split at h
    · next hreads =>
      obtain ⟨hinput, hleft, hroom⟩ := hreads
      have hlength := List.length_pos_iff.2 hleft
      cases h
      refine .take (.of_eq hrunning) hinput (by omega) (by omega) (by omega) ?_
      exact List.perm_middle.trans ((List.filter_append_perm _ _).cons _)
    · next hreads =>
      cases h
      refine .finish (.of_eq hrunning) fun hinput => ?_
      by_cases hleft : c.left = []
      · exact .inl hleft
      · exact .inr (Nat.eq_zero_of_not_pos fun hroom => hreads ⟨hinput, hleft, hroom⟩)

/-- A turn is something that can happen. -/
theorem step_of_turn? {size : Nat} (h : c.turn? f w workers size = some next) :
    Step f w workers c next := by
  rw [turn?] at h
  split at h
  · exact step_of_act? h
  · next task rest hwaiting =>
    split at h
    · next hfree =>
      cases h
      exact .start hwaiting hfree
    · exact step_of_act? h

/-- There are turns until every task has returned. -/
theorem isDone_of_turn?_eq_none {size : Nat} (h : c.turn? f w workers size = none) : c.IsDone := by
  have hact : c.act? f w size = none → c.running = [] := by
    intro hnone
    rw [act?] at hnone
    split at hnone
    · assumption
    · split at hnone <;> cases hnone
  rw [turn?] at h
  split at h
  · exact ⟨by assumption, hact h⟩
  · split at h
    · cases h
    · next hfree =>
      rw [hact h] at hfree
      exact absurd (Nat.lt_of_lt_of_le Nat.one_pos (Nat.le_max_right workers 1)) hfree

/-- What becomes of the tasks if there are turns to the end. -/
def resultsInTurn (f : FileLinter) (w : World) (workers size : Nat) (c : Crew) : List TaskResult :=
  match h : c.turn? f w workers size with
  | none => c.finished
  | some next =>
    have := (step_of_turn? h).remaining_lt
    next.resultsInTurn f w workers size
termination_by c.remaining

/-- **The turns lead to an end.** -/
theorem exists_reaches_resultsInTurn (f : FileLinter) (w : World) (workers size : Nat) (c : Crew) :
    ∃ last, Reaches f w workers c last ∧ last.IsDone ∧
      last.finished = c.resultsInTurn f w workers size := by
  fun_induction resultsInTurn f w workers size c with
  | case1 c h => exact ⟨c, .refl c, isDone_of_turn?_eq_none h, rfl⟩
  | case2 c next h _ ih =>
    obtain ⟨last, hreaches, hdone, hfinished⟩ := ih
    exact ⟨last, .step (step_of_turn? h) hreaches, hdone, hfinished⟩

end Crew

/-- What a crew makes of any tasks in any world. -/
structure Schedule where
  /-- What becomes of the tasks, in the order of their return. -/
  results : FileLinter → World → (workers : Nat) → List Task → List TaskResult
  /-- The crew can come to that. -/
  completes : ∀ f w workers tasks, Crew.Completes f w workers tasks (results f w workers tasks)

/-- Tasks are done in order, and those that read standard input take turns, with pieces of at most
`size + 1` bytes. -/
def Schedule.inTurn (size : Nat) : Schedule where
  results f w workers tasks := (Crew.ofTasks w tasks).resultsInTurn f w workers size
  completes f w workers tasks := Crew.exists_reaches_resultsInTurn f w workers size (.ofTasks w tasks)

end StructuralLint
