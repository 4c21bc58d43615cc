import Mathlib
import StructuralLint.Proofs.Files.Input

/-!
# Tasks in any order

A task that reads a file does not look at standard input, and leaves it as it was. So if at most one of
some tasks reads standard input, each becomes what it would alone (`FileLinter.doTasks_eq_map`).

What has become of the tasks is put back into the order of the documents by position. Since every position
is that of one task, a slot holds what has become of its task (`TaskResult.slot_task`), and the reports are
those of the documents, one for each and in their order (`TaskResult.map_path_of_collect`). If each task has
become what it would alone, then the order in which they have returned cannot be told from the reports
(`TaskResult.collect_eq_ok_iff_alone`).
-/

namespace StructuralLint

/-! ### The tasks for some names -/

namespace Task

theorem map_name_ofNames (names : List Text) : (ofNames names).map (·.name) = names := by
  rw [ofNames, List.map_map]
  exact List.zipIdx_map_fst 0 names

theorem map_position_ofNames (names : List Text) :
    (ofNames names).map (·.position) = List.range names.length := by
  rw [ofNames, List.map_map, List.range_eq_range']
  exact List.zipIdx_map_snd 0 names

theorem nodup_map_position_ofNames (names : List Text) :
    ((ofNames names).map (·.position)).Nodup := by
  rw [map_position_ofNames]
  exact List.nodup_range

theorem countP_ofNames (names : List Text) :
    (ofNames names).countP (·.name = stdinName) = names.count stdinName := by
  conv_rhs => rw [← map_name_ofNames names, List.count, List.countP_map]
  exact List.countP_congr fun task _ ↦ by simp

end Task

/-! ### Slots -/

namespace TaskResult

/-- What tasks that were done leave in the slot of a task. -/
def slot (done : List TaskResult) (task : Task) : Option Report :=
  done.findSome? fun t ↦ if t.task.position = task.position then t.report? else none

theorem collect_eq_ok_iff {tasks : List Task} {done : List TaskResult} {reports : List Report} :
    collect tasks done = .ok reports ↔
      (∀ t ∈ done, t.failure? = none) ∧ tasks.filterMap (slot done) = reports := by
  rw [collect]
  split
  · next e he =>
    obtain ⟨A, t, B, rfl, ht, -⟩ := List.findSome?_eq_some_iff.1 he
    refine iff_of_false (by simp) fun h ↦ ?_
    rw [h.1 t (by simp)] at ht
    cases ht
  · next hnone =>
    rw [Except.ok.injEq, and_iff_right (List.findSome?_eq_none_iff.1 hnone)]
    rfl

/-- **The first failure is the failure of all.** -/
theorem collect_eq_error_iff {tasks : List Task} {done : List TaskResult} {e : FileError} :
    collect tasks done = .error e ↔ ∃ A t B, done = A ++ t :: B ∧ (∀ a ∈ A, a.failure? = none) ∧
      t.failure? = some e := by
  have hfirst : collect tasks done = .error e ↔ done.findSome? failure? = some e := by
    rw [collect]
    split
    · next e' he =>
      rw [he]
      simp
    · next hnone =>
      rw [hnone]
      simp
  rw [hfirst, List.findSome?_eq_some_iff]
  constructor
  · rintro ⟨A, t, B, hdone, ht, hA⟩
    exact ⟨A, t, B, hdone, hA, ht⟩
  · rintro ⟨A, t, B, hdone, hA, ht⟩
    exact ⟨A, t, B, hdone, ht, hA⟩

/-- A task fails or has a report. -/
theorem exists_report?_iff (t : TaskResult) : (∃ r, t.report? = some r) ↔ t.failure? = none := by
  rw [report?, failure?]
  rcases t.result with e | ⟨r, trace⟩ <;> simp

/-- **A slot holds what became of its task**, as no other task has its position. -/
theorem slot_task {done : List TaskResult} (hnodup : (done.map (·.task.position)).Nodup)
    {t : TaskResult} (ht : t ∈ done) : slot done t.task = t.report? := by
  induction done with
  | nil => cases ht
  | cons u done ih =>
    rw [List.map_cons, List.nodup_cons] at hnodup
    rw [slot, List.findSome?_cons]
    rcases List.mem_cons.1 ht with rfl | ht
    · have hrest : done.findSome? (fun u ↦ if u.task.position = t.task.position then u.report?
          else none) = none := by
        refine List.findSome?_eq_none_iff.2 fun u hu ↦ if_neg fun heq ↦ hnodup.1 ?_
        exact List.mem_map.2 ⟨u, hu, heq⟩
      rw [if_pos rfl, hrest]
      rcases t.report? with - | r <;> rfl
    · have hne : u.task.position ≠ t.task.position := fun heq ↦
        hnodup.1 (heq ▸ List.mem_map_of_mem ht)
      rw [if_neg hne]
      exact ih hnodup.2 ht

end TaskResult

/-! ### Doing tasks -/

namespace FileLinter

variable (f : FileLinter) (w : World)

@[simp] theorem task_doTask (task : Task) : (f.doTask w task).2.task = task := by
  rw [doTask]
  split <;> rfl

/-- **A task that reads a file leaves standard input alone.** -/
theorem doTask_withInput {task : Task} (h : task.name ≠ stdinName) (input : Source) :
    f.doTask { w with input } task = ({ w with input }, (f.doTask w task).2) :=
  (f.leavesInput_of_ne w h).doTask_eq input task.position

theorem doTask_of_ne {task : Task} (h : task.name ≠ stdinName) :
    (f.doTask w task).1 = w ∧ (f.doTask w.drainInput task).2 = (f.doTask w task).2 := by
  refine ⟨congrArg Prod.fst (f.doTask_withInput w h w.input), ?_⟩
  rw [World.drainInput, f.doTask_withInput w h]

theorem doTask_of_eq {task : Task} (h : task.name = stdinName) :
    f.doTask w task = (w.drainInput, ⟨task, f.lintSourceTraced stdinName w.input⟩) := by
  rw [doTask, if_pos h, h]

/-- Does tasks one after the other. -/
def doTasks (f : FileLinter) (w : World) : List Task → List TaskResult
  | [] => []
  | task :: rest =>
    let (w', done) := f.doTask w task
    done :: f.doTasks w' rest

theorem doTasks_cons (task : Task) (order : List Task) : f.doTasks w (task :: order) =
    (f.doTask w task).2 :: f.doTasks (f.doTask w task).1 order := rfl

@[simp] theorem map_task_doTasks (order : List Task) : (f.doTasks w order).map (·.task) = order := by
  induction order generalizing w with
  | nil => rfl
  | cons task order ih => rw [doTasks_cons, List.map_cons, ih, task_doTask]

theorem path_of_lintSourceTraced {name : Text} {source : Source} {r : Report} {trace : Trace}
    (h : f.lintSourceTraced name source = .ok (r, trace)) : r.path = name := by
  rw [lintSourceTraced] at h
  split at h
  · cases h
  · cases h
    rfl

/-- A report is under the name of its document. -/
theorem path_of_doTask {task : Task} {r : Report} (h : (f.doTask w task).2.report? = some r) :
    r.path = task.name := by
  rw [TaskResult.report?] at h
  rcases hresult : (f.doTask w task).2.result with e | ⟨r', trace⟩
  · rw [hresult] at h
    cases h
  · rw [hresult] at h
    cases h
    rw [doTask] at hresult
    split at hresult
    · exact f.path_of_lintSourceTraced hresult
    · rw [lintFileTraced] at hresult
      split at hresult
      · cases hresult
      · split at hresult
        · cases hresult
        · replace hresult : f.lintAt w task.name _ = .ok (r, trace) := hresult
          rw [lintAt] at hresult
          split at hresult
          · cases hresult
          · exact f.path_of_lintSourceTraced hresult

end FileLinter

/-! ### The reports of all -/

/-- A filter that keeps everything pairs each element with what became of it. -/
theorem forall₂_eq_some_iff {α β : Type} {g : α → Option β} {as : List α} {bs : List β} :
    List.Forall₂ (fun a b ↦ g a = some b) as bs ↔
      (∀ a ∈ as, ∃ b, g a = some b) ∧ as.filterMap g = bs := by
  constructor
  · intro h
    induction h with
    | nil => simp
    | cons hb _ ih =>
      rw [List.forall_mem_cons, List.filterMap_cons_some hb, ih.2]
      exact ⟨⟨⟨_, hb⟩, ih.1⟩, rfl⟩
  · rintro ⟨h, rfl⟩
    induction as with
    | nil => exact .nil
    | cons a as ih =>
      rw [List.forall_mem_cons] at h
      obtain ⟨⟨b, hb⟩, hrest⟩ := h
      rw [List.filterMap_cons_some hb]
      exact .cons hb (ih hrest)

namespace TaskResult

variable {names : List Text} {done : List TaskResult} {reports : List Report}

/-- **Each task for a document has returned**, and its slot holds what has become of it. -/
theorem exists_slot_eq (hdone : (done.map (·.task)).Perm (Task.ofNames names)) {task : Task}
    (htask : task ∈ Task.ofNames names) : ∃ t ∈ done, t.task = task ∧ slot done task = t.report? := by
  have hnodup : (done.map (·.task.position)).Nodup := by
    have hpositions := (hdone.map (·.position)).nodup_iff.2 (Task.nodup_map_position_ofNames names)
    rwa [List.map_map] at hpositions
  obtain ⟨t, ht, rfl⟩ := List.mem_map.1 (hdone.mem_iff.2 htask)
  exact ⟨t, ht, rfl, slot_task hnodup ht⟩

/-- **One report for each document, in the order of the documents.** -/
theorem map_path_of_collect (hdone : (done.map (·.task)).Perm (Task.ofNames names))
    (hpath : ∀ t ∈ done, ∀ r, t.report? = some r → r.path = t.task.name)
    (h : collect (Task.ofNames names) done = .ok reports) : reports.map (·.path) = names := by
  obtain ⟨hall, rfl⟩ := collect_eq_ok_iff.1 h
  have hslot : ∀ task ∈ Task.ofNames names, (slot done task).map (·.path) = some task.name := by
    intro task htask
    obtain ⟨t, ht, rfl, hslot⟩ := exists_slot_eq hdone htask
    obtain ⟨r, hr⟩ := t.exists_report?_iff.2 (hall t ht)
    rw [hslot, hr, Option.map_some, hpath t ht r hr]
  rw [List.map_filterMap, List.filterMap_congr hslot, ← Function.comp_def, List.filterMap_eq_map,
    Task.map_name_ofNames]

/-- **The reports are those that each document has alone**, if that is what the tasks have become. -/
theorem collect_eq_ok_iff_alone {f : FileLinter} {w : World}
    (hdone : (done.map (·.task)).Perm (Task.ofNames names))
    (halone : ∀ t ∈ done, t = (f.doTask w t.task).2) :
    collect (Task.ofNames names) done = .ok reports ↔
      List.Forall₂ (fun task r ↦ (f.doTask w task).2.report? = some r) (Task.ofNames names) reports := by
  have hslot : ∀ task ∈ Task.ofNames names, slot done task = (f.doTask w task).2.report? := by
    intro task htask
    obtain ⟨t, ht, rfl, hslot⟩ := exists_slot_eq hdone htask
    rw [hslot, ← halone t ht]
  have hall : (∀ t ∈ done, t.failure? = none) ↔
      ∀ task ∈ Task.ofNames names, ∃ r, (f.doTask w task).2.report? = some r := by
    simp only [← hdone.mem_iff, List.forall_mem_map, exists_report?_iff]
    exact forall₂_congr fun t ht ↦ by rw [← halone t ht]
  rw [collect_eq_ok_iff, List.filterMap_congr hslot, hall, forall₂_eq_some_iff]

end TaskResult

end StructuralLint
