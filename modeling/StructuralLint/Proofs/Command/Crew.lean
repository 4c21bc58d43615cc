import Mathlib
import StructuralLint.Command.Crew
import StructuralLint.Proofs.Command.Task
import StructuralLint.Proofs.Text.Encode

/-!
# What a crew comes to

However the workers share the tasks and the pieces of standard input, no task is lost or done twice, and a
report is under the name of its document (`Crew.Sound`). More is known if standard input is one document at
most. Then nobody takes a piece from anybody else, so that what the one task has read and what is left
are the whole input at any time (`Crew.ReadsAlone`), and each task becomes what it would alone
(`Crew.Completes.eq_doTask`).

The task returns when standard input is at its end, and also when a line does not fit. In the second case it
has not read everything, and its failure is that of reading everything because the line is one of the
whole input as well (`lintSourceTraced_of_run`).
-/

namespace StructuralLint

/-! ### Bytes without a line feed -/

/-- What has no separator stands before or behind it. -/
theorem infix_or_infix_of_infix_append_cons {α : Type} {x : α} {run A B : List α} (hx : x ∉ run)
    (h : run <:+: A ++ x :: B) : run <:+: A ∨ run <:+: B := by
  obtain ⟨u, v, huv⟩ := h
  obtain ⟨c, rfl, -⟩ | ⟨c, hc, hrest⟩ := List.append_eq_append_iff.1 huv
  · exact .inl ⟨u, c, rfl⟩
  rcases c with - | ⟨y, c⟩
  · exact .inl ⟨u, [], by rw [List.append_nil, hc, List.append_nil]⟩
  obtain ⟨rfl, rfl⟩ := List.cons.inj hrest
  obtain ⟨d, rfl, hd⟩ | ⟨d, -, hd⟩ := List.append_eq_append_iff.1 hc
  · exact absurd (by simp [hd]) hx
  · rcases d with - | ⟨y, d⟩
    · rw [List.nil_append] at hd
      exact absurd (by simp [← hd]) hx
    · obtain ⟨-, rfl⟩ := List.cons.inj hd
      exact .inr ⟨d, v, rfl⟩

namespace Text

/-- **Bytes without a line feed lie in one piece of the text.** -/
theorem exists_piece_of_infix {t : Text} {run : List UInt8} (hfeed : 0x0A ∉ run)
    (h : run <:+: t.toBytes) : ∃ piece ∈ splitOn '\n' t, run.length ≤ piece.size := by
  induction hn : t.length using Nat.strongRecOn generalizing t with
  | ind n ih =>
    by_cases hmem : Rune.char '\n' ∈ t
    · obtain ⟨first, rest, rfl⟩ := List.append_of_mem hmem
      have hbytes : toBytes (first ++ .char '\n' :: rest) = toBytes first ++ 0x0A :: toBytes rest := by
        rw [toBytes_append, toBytes_cons]
        rfl
      rw [List.length_append, List.length_cons] at hn
      rw [splitOn_eq, List.splitOn_append_cons_self, ← splitOn_eq, ← splitOn_eq]
      rw [hbytes] at h
      rcases infix_or_infix_of_infix_append_cons hfeed h with hfirst | hrest
      · obtain ⟨piece, hpiece, hle⟩ := ih first.length (by omega) hfirst rfl
        exact ⟨piece, List.mem_append_left _ hpiece, hle⟩
      · obtain ⟨piece, hpiece, hle⟩ := ih rest.length (by omega) hrest rfl
        exact ⟨piece, List.mem_append_right _ hpiece, hle⟩
    · refine ⟨t, ?_, ?_⟩
      · rw [splitOn_eq, List.splitOn_eq_singleton hmem]
        exact List.mem_singleton_self t
      · rw [← length_toBytes]
        exact h.length_le

end Text

/-- **A line that does not fit makes reading fail**, wherever it ends. -/
theorem FileLinter.lintSourceTraced_of_run (f : FileLinter) (name : Text) {source : Source}
    {run : List UInt8} (hrun : run <:+: source.text.toBytes) (hfeed : 0x0A ∉ run)
    (hlong : Source.lineLimit ≤ run.length) :
    f.lintSourceTraced name source = .error (.unreadable name .lineTooLong) := by
  obtain ⟨piece, hpiece, hle⟩ := Text.exists_piece_of_infix hfeed hrun
  have htoo : Source.isTooLong piece = true := decide_eq_true (hlong.trans hle)
  have hne : piece ≠ [] := by
    rintro rfl
    cases htoo
  have herror : source.error? = some .lineTooLong := by
    rw [Source.error?, if_pos (List.any_eq_true.2 ⟨piece, (Source.mem_pieces_iff hne).2 hpiece, htoo⟩)]
  rw [lintSourceTraced, Source.read, herror]

/-! ### One task -/

namespace Job

variable {f : FileLinter} {w : World} {job : Job} {left : List UInt8}

@[simp] theorem task_result (f : FileLinter) (w : World) (job : Job) :
    (job.result f w).task = job.task :=
  f.task_doTask _ _

/-- Where there is no room, a line does not fit. -/
theorem exists_run_of_room_eq_zero (h : job.room = 0) :
    ∃ run, run <:+ job.read ∧ 0x0A ∉ run ∧ Source.lineLimit ≤ run.length := by
  refine ⟨(job.read.reverse.takeWhile (· ≠ 0x0A)).reverse, ?_, fun hmem ↦ ?_, ?_⟩
  · rw [← List.reverse_prefix, List.reverse_reverse]
    exact List.takeWhile_prefix _
  · rw [List.mem_reverse] at hmem
    simpa using List.mem_takeWhile_imp hmem
  · rw [List.length_reverse]
    exact Nat.le_of_sub_eq_zero h

/-- A task that reads a file becomes what it would alone. -/
theorem result_of_not_readsInput (h : job.readsInput = false) :
    job.result f w = (f.doTask w job.task).2 := by
  rw [result, f.doTask_withInput w (of_decide_eq_false h)]

/-- **A task that nobody takes a piece from becomes what it would alone.** -/
theorem result_of_readsInput (h : job.readsInput = true)
    (hread : job.read ++ left = w.input.text.toBytes) (hend : left = [] ∨ job.room = 0) :
    job.result f w = (f.doTask w job.task).2 := by
  have hname : job.task.name = stdinName := of_decide_eq_true h
  have hlint : f.lintSourceTraced stdinName (job.source w.input) =
      f.lintSourceTraced stdinName w.input := by
    rw [source]
    split
    · rfl
    · next hpart =>
      obtain hnil | hroom := hend
      · rw [hnil, List.append_nil] at hread
        exact absurd hread hpart
      · obtain ⟨run, hrun, hfeed, hlong⟩ := exists_run_of_room_eq_zero hroom
        have hwhole : run <:+: w.input.text.toBytes :=
          hrun.isInfix.trans (hread ▸ (List.prefix_append job.read left).isInfix)
        rw [f.lintSourceTraced_of_run _ (by simpa using hrun.isInfix) hfeed hlong,
          f.lintSourceTraced_of_run _ hwhole hfeed hlong]
  rw [result, f.doTask_of_eq _ hname, f.doTask_of_eq w hname]
  exact congrArg (TaskResult.mk job.task) hlint

/-- A report is under the name of its document. -/
theorem path_of_result {r : Report} (h : (job.result f w).report? = some r) : r.path = job.task.name :=
  f.path_of_doTask _ h

end Job

namespace Crew

variable {f : FileLinter} {w : World} {workers : ℕ} {tasks : List Task} {c next : Crew}

/-- **A crew is never stuck** before every task has returned. -/
theorem isDone_or_exists_step (f : FileLinter) (w : World) (workers : ℕ) (c : Crew) :
    c.IsDone ∨ ∃ next, Step f w workers c next := by
  rcases hturn : c.turn? f w workers 0 with - | next
  · exact .inl (isDone_of_turn?_eq_none hturn)
  · exact .inr ⟨next, step_of_turn? hturn⟩

/-! ### What always holds -/

/-- **A sound crew**: what holds however the workers share the tasks and the input. -/
structure Sound (tasks : List Task) (c : Crew) : Prop where
  /-- No task is lost, and none is done twice. -/
  perm : (c.finished.map (·.task) ++ (c.running.map (·.task) ++ c.waiting)).Perm tasks
  /-- A report is under the name of its document. -/
  path_eq : ∀ t ∈ c.finished, ∀ r, t.report? = some r → r.path = t.task.name

theorem sound_ofTasks (w : World) (tasks : List Task) : Sound tasks (ofTasks w tasks) :=
  ⟨.refl _, nofun⟩

theorem Sound.step (h : Sound tasks c) (hstep : Step f w workers c next) : Sound tasks next := by
  cases hstep with
  | start hwaiting =>
    refine ⟨List.Perm.trans (.of_eq ?_) h.perm, h.path_eq⟩
    simp [hwaiting]
  | take hrunning _ _ _ _ hnext =>
    refine ⟨List.Perm.trans (.append_left _ (.append_right _ ?_)) h.perm, h.path_eq⟩
    exact (hnext.map (·.task)).trans (hrunning.map (·.task)).symm
  | @finish job rest hrunning =>
    refine ⟨List.Perm.trans ?_ h.perm, ?_⟩
    · simp only [List.map_append, List.map_cons, List.map_nil, List.append_assoc, Job.task_result]
      exact .append_left _ ((hrunning.map (·.task)).symm.append_right _)
    · intro t ht r hr
      rw [List.mem_append, List.mem_singleton] at ht
      rcases ht with ht | rfl
      · exact h.path_eq t ht r hr
      · rw [Job.task_result]
        exact Job.path_of_result hr

theorem Sound.reaches (h : Sound tasks c) (hreaches : Reaches f w workers c next) :
    Sound tasks next := by
  induction hreaches with
  | refl => exact h
  | step hstep _ ih => exact ih (h.step hstep)

/-- **Whoever reads standard input is the only one**, if it is one document at most. -/
theorem Sound.eq_false_of_readsInput (h : Sound tasks c)
    (hinput : tasks.countP (·.name = stdinName) ≤ 1) {job : Job} {rest : List Job}
    (hrunning : c.running.Perm (job :: rest)) (hjob : job.readsInput = true) :
    (∀ other ∈ rest, other.readsInput = false) ∧ ∀ task ∈ c.waiting, task.name ≠ stdinName := by
  have hcount := h.perm.countP_eq (·.name = stdinName)
  rw [List.countP_append, List.countP_append, (hrunning.map (·.task)).countP_eq, List.map_cons,
    List.countP_cons_of_pos (by exact hjob)] at hcount
  have hrest : (rest.map (·.task)).countP (·.name = stdinName) = 0 := by omega
  have hwaiting : c.waiting.countP (·.name = stdinName) = 0 := by omega
  rw [List.countP_map, List.countP_eq_zero] at hrest
  rw [List.countP_eq_zero] at hwaiting
  exact ⟨fun other hother ↦ by simpa [Job.readsInput] using hrest other hother,
    fun task htask ↦ by simpa using hwaiting task htask⟩

/-! ### Standard input as one document at most -/

/-- **Nobody takes a piece from anybody else.** -/
structure ReadsAlone (f : FileLinter) (w : World) (c : Crew) : Prop where
  /-- Each task has become what it would alone. -/
  finished_eq : ∀ t ∈ c.finished, t = (f.doTask w t.task).2
  /-- What was read and what is left are the whole input. -/
  read_append_left : ∀ job ∈ c.running, job.readsInput = true →
    job.read ++ c.left = w.input.text.toBytes
  /-- The input is whole for a task that has not started. -/
  left_eq : ∀ task ∈ c.waiting, task.name = stdinName → c.left = w.input.text.toBytes

theorem readsAlone_ofTasks (f : FileLinter) (w : World) (tasks : List Task) :
    ReadsAlone f w (ofTasks w tasks) :=
  ⟨nofun, nofun, fun _ _ _ ↦ rfl⟩

theorem ReadsAlone.step (h : ReadsAlone f w c) (hsound : Sound tasks c)
    (hinput : tasks.countP (·.name = stdinName) ≤ 1) (hstep : Step f w workers c next) :
    ReadsAlone f w next := by
  cases hstep with
  | @start task rest hwaiting =>
    have hwhole := h.left_eq
    rw [hwaiting, List.forall_mem_cons] at hwhole
    refine ⟨h.finished_eq, fun job hjob hreads ↦ ?_, hwhole.2⟩
    rw [List.mem_append, List.mem_singleton] at hjob
    rcases hjob with hjob | rfl
    · exact h.read_append_left job hjob hreads
    · exact hwhole.1 (of_decide_eq_true hreads)
  | @take job rest running n hrunning hjob _ _ _ hnext =>
    obtain ⟨hrest, hwaiting⟩ := hsound.eq_false_of_readsInput hinput hrunning hjob
    refine ⟨h.finished_eq, fun other hother hreads ↦ ?_, fun task htask hname ↦
      absurd hname (hwaiting task htask)⟩
    rcases List.mem_cons.1 (hnext.mem_iff.1 hother) with rfl | hother
    · rw [Job.take, List.append_assoc, List.take_append_drop]
      exact h.read_append_left job (hrunning.mem_iff.2 List.mem_cons_self) hjob
    · rw [hrest other hother] at hreads
      cases hreads
  | @finish job rest hrunning hend =>
    have hmem : ∀ other, other ∈ job :: rest → other ∈ c.running := fun _ ↦ hrunning.mem_iff.2
    refine ⟨fun t ht ↦ ?_, fun other hother ↦ h.read_append_left other (hmem other (.tail _ hother)),
      h.left_eq⟩
    rw [List.mem_append, List.mem_singleton] at ht
    rcases ht with ht | rfl
    · exact h.finished_eq t ht
    · rw [Job.task_result]
      by_cases hjob : job.readsInput = true
      · exact Job.result_of_readsInput hjob (h.read_append_left job (hmem job (.head _)) hjob)
          (hend hjob)
      · exact Job.result_of_not_readsInput (by simpa using hjob)

theorem ReadsAlone.reaches (h : ReadsAlone f w c) (hsound : Sound tasks c)
    (hinput : tasks.countP (·.name = stdinName) ≤ 1) (hreaches : Reaches f w workers c next) :
    ReadsAlone f w next := by
  induction hreaches with
  | refl => exact h
  | step hstep _ ih => exact ih (h.step hsound hinput hstep) (hsound.step hstep)

/-! ### When every task has returned -/

variable {results : List TaskResult}

/-- **Every task has returned once.** -/
theorem Completes.perm (h : Completes f w workers tasks results) :
    (results.map (·.task)).Perm tasks := by
  obtain ⟨c, hreaches, hdone, rfl⟩ := h
  have hperm := ((sound_ofTasks w tasks).reaches hreaches).perm
  rwa [hdone.running_eq, hdone.waiting_eq, List.map_nil, List.append_nil, List.append_nil] at hperm

theorem Completes.path_eq (h : Completes f w workers tasks results) :
    ∀ t ∈ results, ∀ r, t.report? = some r → r.path = t.task.name := by
  obtain ⟨c, hreaches, -, rfl⟩ := h
  exact ((sound_ofTasks w tasks).reaches hreaches).path_eq

/-- **Each task becomes what it would alone**, if standard input is one document at most. -/
theorem Completes.eq_doTask (h : Completes f w workers tasks results)
    (hinput : tasks.countP (·.name = stdinName) ≤ 1) : ∀ t ∈ results, t = (f.doTask w t.task).2 := by
  obtain ⟨c, hreaches, -, rfl⟩ := h
  exact ((readsAlone_ofTasks f w tasks).reaches (sound_ofTasks w tasks) hinput hreaches).finished_eq

theorem Completes.mem_doTask (h : Completes f w workers tasks results)
    (hinput : tasks.countP (·.name = stdinName) ≤ 1) {task : Task} (htask : task ∈ tasks) :
    (f.doTask w task).2 ∈ results := by
  obtain ⟨t, ht, rfl⟩ := List.mem_map.1 (h.perm.mem_iff.2 htask)
  rwa [← h.eq_doTask hinput t ht]

end Crew

end StructuralLint
