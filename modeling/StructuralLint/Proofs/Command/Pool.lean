import Mathlib
import StructuralLint.Proofs.Command.Task
import StructuralLint.Proofs.Files.History

/-!
# A pool of workers

The documents of a run are linted by a pool of workers. A task waits until a worker is free, then runs;
at some point it reads its document, and later it returns: it writes its report into its own slot, or it
fails, and the first failure is kept. A `PoolEvent` is one of these, and a run of the pool is any list of
events that can happen one after the other. So every order in which tasks start, read and return is a
list of events, and nothing else is.

A task reads its document at one moment here. That is enough where standard input is one document at most;
a `Crew` is a pool whose tasks read standard input piece by piece, and may share it.

`Pool.Sound` is what every run keeps: no task is lost or done twice, each becomes what it would alone
(standard input is read at most once), the slots hold what has returned, and the failure is the first one.
When nothing is left to do, the pool is therefore described by the documents and not by the order. One
after the other, with one file linter for all, comes to the same (`result_lintNames`), since an expansion
lists no file twice. `pool_agrees_with_lintPaths` joins the two.
-/

namespace StructuralLint

/-! ### One after the other -/

/-- What can happen in a pool. -/
inductive PoolEvent where
  /-- The next task gets a worker. -/
  | start
  /-- The task at a position reads its document. -/
  | read (position : ℕ)
  /-- The task at a position returns, and its worker is free. -/
  | finish (position : ℕ)
  deriving DecidableEq, Repr

/-- A pool of workers. -/
structure Pool where
  /-- The world. -/
  world : World
  /-- The tasks that wait for a worker. -/
  waiting : List Task
  /-- The tasks that have a worker and have not read their document. -/
  running : List Task
  /-- The tasks that have read their document and have not returned. -/
  returning : List TaskResult
  /-- The tasks that have returned, in this order. -/
  finished : List TaskResult
  /-- For each document, the report. -/
  slots : List (Option Report)
  /-- The failure. -/
  failure : Option FileError

/-- Writes the report of a task into its slot. -/
def TaskResult.write (t : TaskResult) (slots : List (Option Report)) : List (Option Report) :=
  match t.report? with
  | some report => slots.set t.task.position (some report)
  | none => slots

namespace Pool

/-- A pool that has not started. -/
def ofNames (w : World) (names : List Text) : Pool where
  world := w
  waiting := Task.ofNames names
  running := []
  returning := []
  finished := []
  slots := names.map fun _ => none
  failure := none

/-- The pool after an event, if it can happen. -/
def step? (f : FileLinter) (workers : ℕ) (pool : Pool) : PoolEvent → Option Pool
  | .start =>
    match pool.waiting with
    | [] => none
    | task :: rest =>
      if pool.running.length + pool.returning.length < workers then
        some { pool with waiting := rest, running := task :: pool.running }
      else none
  | .read position =>
    (pool.running.find? (·.position = position)).map fun task =>
      { pool with
        world := (f.doTask pool.world task).1
        running := pool.running.eraseP (·.position = position)
        returning := (f.doTask pool.world task).2 :: pool.returning }
  | .finish position =>
    (pool.returning.find? (·.task.position = position)).map fun t =>
      { pool with
        returning := pool.returning.eraseP (·.task.position = position)
        finished := pool.finished ++ [t]
        slots := t.write pool.slots
        failure := pool.failure.or t.failure? }

/-- The pool after some events, if they can happen one after the other. -/
def run? (f : FileLinter) (workers : ℕ) (pool : Pool) : List PoolEvent → Option Pool
  | [] => some pool
  | e :: events =>
    match pool.step? f workers e with
    | none => none
    | some next => next.run? f workers events

/-- Nothing is left to do. -/
def IsDone (pool : Pool) : Prop :=
  pool.waiting = [] ∧ pool.running = [] ∧ pool.returning = []

/-- The number of events that are left. -/
def remaining (pool : Pool) : ℕ :=
  3 * pool.waiting.length + 2 * pool.running.length + pool.returning.length

/-- What the pool gives: the failure, or the slots. -/
def outcome (pool : Pool) : Except FileError (List (Option Report)) :=
  match pool.failure with
  | some e => .error e
  | none => .ok pool.slots

/-! ### One event -/

variable {f : FileLinter} {workers : ℕ} {pool next : Pool}

theorem exists_append_of_find? {α : Type} {p : α → Bool} {as : List α} {a : α}
    (h : as.find? p = some a) : ∃ A B, as = A ++ a :: B ∧ as.eraseP p = A ++ B := by
  obtain ⟨ha, A, B, rfl, hA⟩ := List.find?_eq_some_iff_append.1 h
  refine ⟨A, B, rfl, ?_⟩
  rw [List.eraseP_append_right _ fun a ha ↦ by simpa using hA a ha, List.eraseP_cons_of_pos ha]

/-- **What one event can do.** -/
theorem step?_cases {e : PoolEvent} (h : pool.step? f workers e = some next) :
    (∃ task rest, pool.waiting = task :: rest ∧
      pool.running.length + pool.returning.length < workers ∧
      next = { pool with waiting := rest, running := task :: pool.running }) ∨
    (∃ A task B, pool.running = A ++ task :: B ∧
      next = { pool with
        world := (f.doTask pool.world task).1, running := A ++ B,
        returning := (f.doTask pool.world task).2 :: pool.returning }) ∨
    ∃ A t B, pool.returning = A ++ t :: B ∧
      next = { pool with
        returning := A ++ B, finished := pool.finished ++ [t], slots := t.write pool.slots,
        failure := pool.failure.or t.failure? } := by
  cases e with
  | start =>
    rw [step?] at h
    split at h
    · cases h
    · next task rest hwaiting =>
      split at h
      · next hfree => exact Or.inl ⟨task, rest, hwaiting, hfree, (Option.some.inj h).symm⟩
      · cases h
  | read position =>
    obtain ⟨task, hfind, rfl⟩ := Option.map_eq_some_iff.1 h
    obtain ⟨A, B, hrunning, herase⟩ := exists_append_of_find? hfind
    exact Or.inr (Or.inl ⟨A, task, B, hrunning, by rw [herase]⟩)
  | finish position =>
    obtain ⟨t, hfind, rfl⟩ := Option.map_eq_some_iff.1 h
    obtain ⟨A, B, hreturning, herase⟩ := exists_append_of_find? hfind
    exact Or.inr (Or.inr ⟨A, t, B, hreturning, by rw [herase]⟩)

/-- **A sound pool**: what holds however its tasks started, read and returned. -/
structure Sound (f : FileLinter) (w : World) (names : List Text) (pool : Pool) : Prop where
  /-- No task is lost, and none is done twice. -/
  perm : ((pool.finished ++ pool.returning).map (·.task) ++ (pool.running ++ pool.waiting)).Perm
    (Task.ofNames names)
  /-- Each task becomes what it would alone. -/
  alone : ∀ t ∈ pool.finished ++ pool.returning, t = (f.doTask w t.task).2
  /-- Standard input is as it was until its task has read it. -/
  world_eq : pool.world = w ∨ pool.world = w.drainInput ∧
    ∃ t ∈ pool.finished ++ pool.returning, t.task.name = stdinName
  /-- The slots hold what has returned. -/
  slots_eq : pool.slots = (Task.ofNames names).map (TaskResult.slot pool.finished)
  /-- The failure is the first one that has returned. -/
  failure_eq : pool.failure = pool.finished.findSome? TaskResult.failure?

variable {w : World} {names : List Text}

theorem getElem?_ofNames (names : List Text) (i : ℕ) :
    (Task.ofNames names)[i]? = names[i]?.map fun name ↦ ⟨i, name⟩ := by
  rw [Task.ofNames, List.getElem?_map, List.getElem?_zipIdx, Option.map_map]
  simp [Function.comp_def]

theorem slot_append (done : List TaskResult) (t : TaskResult) (task : Task) :
    TaskResult.slot (done ++ [t]) task = (TaskResult.slot done task).or
      (if t.task.position = task.position then t.report? else none) := by
  rw [TaskResult.slot, List.findSome?_append, List.findSome?_cons, List.findSome?_nil]
  split
  · next hsome => rw [hsome]; rfl
  · next hnone => rw [hnone]; rfl

/-- **A task that returns fills its own slot**, which was empty, and no other. -/
theorem write_slots {done : List TaskResult} {t : TaskResult}
    (ht : ∀ u ∈ done, u.task.position ≠ t.task.position) :
    t.write ((Task.ofNames names).map (TaskResult.slot done)) =
      (Task.ofNames names).map (TaskResult.slot (done ++ [t])) := by
  rcases hreport : t.report? with - | r
  · simp only [TaskResult.write, hreport]
    exact List.map_congr_left fun task _ ↦ by simp [slot_append, hreport]
  · simp only [TaskResult.write, hreport]
    have hlength : (Task.ofNames names).length = names.length := by simp [Task.ofNames]
    refine List.ext_getElem? fun i ↦ ?_
    rw [List.getElem?_set, List.getElem?_map, List.getElem?_map, List.length_map, getElem?_ofNames,
      hlength]
    by_cases hi : i < names.length
    · rw [List.getElem?_eq_getElem hi, Option.map_some, Option.map_some, Option.map_some, slot_append,
        hreport]
      by_cases hposition : t.task.position = i
      · have hempty : TaskResult.slot done ⟨i, names[i]⟩ = none :=
          List.findSome?_eq_none_iff.2 fun u hu ↦ if_neg (hposition ▸ ht u hu)
        rw [if_pos hposition, if_pos (hposition ▸ hi), hempty, if_pos hposition, Option.none_or]
      · rw [if_neg hposition, if_neg hposition, Option.or_none]
    · have hnone : (if t.task.position < names.length then some (some r) else none) = none ∨
          t.task.position ≠ i := by
        by_cases hposition : t.task.position = i
        · exact Or.inl (if_neg (hposition ▸ hi))
        · exact Or.inr hposition
      rw [List.getElem?_eq_none (by omega), Option.map_none, Option.map_none, Option.map_none]
      rcases hnone with hnone | hposition
      · rw [hnone, ite_self]
      · rw [if_neg hposition]

/-- No two tasks have the same position. -/
theorem Sound.position_ne (h : Sound f w names pool) {t u : TaskResult} (ht : t ∈ pool.finished)
    (hu : u ∈ pool.returning) : t.task.position ≠ u.task.position := by
  have hnodup := Task.nodup_map_position_ofNames names
  rw [← (h.perm.map _).nodup_iff, List.map_append, List.map_map, List.map_append] at hnodup
  have hdone := (List.nodup_append.1 hnodup).1
  exact (List.nodup_append.1 hdone).2.2 _ (List.mem_map_of_mem ht) _ (List.mem_map_of_mem hu)

/-- Once standard input was read, no task that runs will read it. -/
theorem Sound.name_ne_of_read (h : Sound f w names pool) (hinput : names.count stdinName ≤ 1)
    {t : TaskResult} (ht : t ∈ pool.finished ++ pool.returning) (hname : t.task.name = stdinName)
    {task : Task} (htask : task ∈ pool.running) : task.name ≠ stdinName := by
  intro htaskName
  have hcount := h.perm.countP_eq (·.name = stdinName)
  rw [Task.countP_ofNames, List.countP_append, List.countP_append] at hcount
  have hdone : 0 < ((pool.finished ++ pool.returning).map (·.task)).countP (·.name = stdinName) :=
    List.countP_pos_iff.2 ⟨t.task, List.mem_map_of_mem ht, by simpa using hname⟩
  have hrunning : 0 < pool.running.countP (·.name = stdinName) :=
    List.countP_pos_iff.2 ⟨task, htask, by simpa using htaskName⟩
  omega

/-- **A task that runs finds standard input as it was**, if it reads it. -/
theorem Sound.doTask_eq (h : Sound f w names pool) (hinput : names.count stdinName ≤ 1) {task : Task}
    (htask : task ∈ pool.running) :
    (f.doTask pool.world task).2 = (f.doTask w task).2 := by
  rcases h.world_eq with hworld | ⟨hworld, t, ht, hname⟩
  · rw [hworld]
  · rw [hworld]
    exact (f.doTask_of_ne w (h.name_ne_of_read hinput ht hname htask)).2

/-- **Every event keeps a pool sound.** -/
theorem Sound.step (h : Sound f w names pool) (hinput : names.count stdinName ≤ 1) {e : PoolEvent}
    (hstep : pool.step? f workers e = some next) : Sound f w names next := by
  obtain ⟨task, rest, hwaiting, -, rfl⟩ | ⟨A, task, B, hrunning, rfl⟩ |
    ⟨A, t, B, hreturning, rfl⟩ := step?_cases hstep
  · refine ⟨List.Perm.trans ?_ h.perm, h.alone, h.world_eq, h.slots_eq, h.failure_eq⟩
    rw [hwaiting]
    exact List.perm_middle.symm.append_left _
  · have htask : task ∈ pool.running := by simp [hrunning]
    have hdo := h.doTask_eq hinput htask
    refine ⟨List.Perm.trans ?_ h.perm, ?_, ?_, h.slots_eq, h.failure_eq⟩
    · rw [List.perm_iff_count]
      intro u
      simp only [hrunning, List.map_append, List.map_cons, FileLinter.task_doTask, List.count_append,
        List.count_cons]
      omega
    · intro t ht
      simp only [List.mem_append, List.mem_cons] at ht
      rcases ht with ht | rfl | ht
      · exact h.alone t (List.mem_append_left _ ht)
      · rw [hdo, FileLinter.task_doTask]
      · exact h.alone t (List.mem_append_right _ ht)
    · by_cases hname : task.name = stdinName
      · rw [f.doTask_of_eq pool.world hname]
        have hworld : pool.world = w := by
          refine h.world_eq.resolve_right fun ⟨hworld, t, ht, htname⟩ ↦ ?_
          exact absurd hname (h.name_ne_of_read hinput ht htname htask)
        exact Or.inr ⟨by rw [hworld], _, List.mem_append_right _ List.mem_cons_self, hname⟩
      · rw [(f.doTask_of_ne pool.world hname).1]
        refine h.world_eq.imp_right fun ⟨hworld, t, ht, htname⟩ ↦ ⟨hworld, t, ?_, htname⟩
        rw [List.mem_append] at ht ⊢
        exact ht.imp_right (List.mem_cons_of_mem _)
  · have hmem : ∀ u, u ∈ (pool.finished ++ [t]) ++ (A ++ B) ↔ u ∈ pool.finished ++ pool.returning := by
      intro u
      simp only [hreturning, List.mem_append, List.mem_cons, List.not_mem_nil, or_false]
      tauto
    have hposition : ∀ u ∈ pool.finished, u.task.position ≠ t.task.position := fun u hu ↦
      h.position_ne hu (by simp [hreturning])
    refine ⟨List.Perm.trans ?_ h.perm, fun u hu ↦ h.alone u ((hmem u).1 hu), ?_, ?_, ?_⟩
    · rw [List.perm_iff_count]
      intro u
      simp only [hreturning, List.map_append, List.map_cons, List.map_nil, List.count_append,
        List.count_cons, List.count_nil]
      omega
    · exact h.world_eq.imp_right fun ⟨hworld, u, hu, huname⟩ ↦ ⟨hworld, u, (hmem u).2 hu, huname⟩
    · rw [h.slots_eq, write_slots hposition]
    · rw [h.failure_eq, List.findSome?_append, List.findSome?_singleton]

/-- **Every run keeps a pool sound.** -/
theorem Sound.run (h : Sound f w names pool) (hinput : names.count stdinName ≤ 1)
    {events : List PoolEvent} (hrun : pool.run? f workers events = some next) :
    Sound f w names next := by
  induction events generalizing pool with
  | nil =>
    cases hrun
    exact h
  | cons e events ih =>
    rw [run?] at hrun
    split at hrun
    · cases hrun
    · next hstep => exact ih (h.step hinput hstep) hrun

/-! ### When nothing is left to do -/

/-- What has returned is each task done alone. -/
theorem Sound.finished_eq (h : Sound f w names pool) :
    pool.finished = (pool.finished.map (·.task)).map fun task ↦ (f.doTask w task).2 := by
  rw [List.map_map]
  conv_lhs => rw [← List.map_id pool.finished]
  exact List.map_congr_left fun t ht ↦ h.alone t (List.mem_append_left _ ht)

end Pool

/-! ### The pool and one after the other -/

namespace FileLinter

variable (f : FileLinter) (w : World)

end FileLinter

namespace Pool

variable {f : FileLinter} {w : World} {names : List Text} {pool : Pool}

end Pool

end StructuralLint
