import Mathlib
import StructuralLint.Proofs.Command.Crew
import StructuralLint.Proofs.Command.Plan

/-!
# Exit codes

The exit code of a run says what became of it: two if it failed, one if there are findings, zero if there
are none. What can make a run fail is listed by `Command.Obstacle`: nothing can be planned, a document
cannot be linted, or the reports cannot be written. `lintOrDump_cases` says everything that a run without
outlines can do: it meets an obstacle before anything is written, or every document has a report, and then
the reports are refused by the sink or their findings decide.

If standard input is one document at most, then which reports there are does not depend on how the workers
share the documents, nor on settings other than the three that concern documents (`Reports.eq_of_alike`). So
neither does the exit code of a run that does not fail (`exit_code_tells_outcome`). If it is two documents,
then the number of workers can decide the code (`exit_code_depends_on_workers`).
-/

namespace StructuralLint

/-! ### Counting findings -/

namespace Summary

theorem diagnostics_ofReports (reports : List Report) :
    (ofReports reports).diagnostics = (reports.map (·.diagnostics.length)).sum := by
  rw [List.sum_eq_foldr, List.foldr_map]
  rfl

theorem diagnostics_ofReports_pos_iff {reports : List Report} :
    0 < (ofReports reports).diagnostics ↔ ∃ r ∈ reports, r.diagnostics ≠ [] := by
  rw [diagnostics_ofReports, List.sum_pos_iff_exists_pos_nat]
  simp [List.length_pos_iff]

end Summary

/-! ### Codes -/

namespace Outcome

variable {o : Outcome}

theorem code_cases (o : Outcome) : o.code = 0 ∨ o.code = 1 ∨ o.code = 2 := by
  rw [code]
  split <;> simp

theorem code_eq_two_iff : o.code = 2 ↔ ∃ e, o.result = .error e := by
  rw [code]
  split <;> simp_all

theorem code_eq_one_iff : o.code = 1 ↔ o.result = .ok .findings := by
  rw [code]
  split <;> simp_all

theorem errorText_eq {e : CommandError} (h : o.result = .error e) :
    o.errorText = Text.ofString "yamlint: " ++ e.message ++ Text.ofString "\n" := by
  rw [errorText, h]

theorem errorText_ne_nil_iff : o.errorText ≠ [] ↔ o.code = 2 := by
  rw [code_eq_two_iff, errorText]
  split
  · next h => simp [h]
  · next e h =>
    refine iff_of_true (fun hnil ↦ ?_) ⟨e, h⟩
    have hline : Text.ofString "\n" = [] := (List.append_eq_nil_iff.1 hnil).2
    exact absurd hline (by decide)

end Outcome

/-! ### What a run can do -/

theorem Plan.completes_results (p : Plan) (s : Schedule) (w : World) :
    Crew.Completes p.fileLinter w p.settings.workers.toInt.toNat p.tasks (p.results s w) :=
  s.completes _ _ _ _

/-- **The reports are those that each document has alone**, if standard input is one document at most. -/
theorem Plan.collect_results_eq_ok_iff {p : Plan} (s : Schedule) (w : World) {reports : List Report}
    (hinput : p.names.count stdinName ≤ 1) :
    TaskResult.collect p.tasks (p.results s w) = .ok reports ↔
      List.Forall₂ (fun task r ↦ (p.fileLinter.doTask w task).2.report? = some r) p.tasks reports := by
  have hcompletes := p.completes_results s w
  rw [Plan.tasks] at hcompletes ⊢
  exact TaskResult.collect_eq_ok_iff_alone hcompletes.perm
    (hcompletes.eq_doTask (by rwa [Task.countP_ofNames]))

namespace Command

/-- The arguments can be understood, and they do not ask for help. -/
structure Accepts (arguments : List Text) (uses : List FlagUse) (operands : List Text) : Prop where
  /-- They are flags and operands. -/
  parse_eq : Flag.parse Flag.all arguments = .ok (uses, operands)
  /-- No flag asks for help. -/
  isOn_help : Flag.isOn uses .help = false
  /-- The first operand is not the help command. -/
  isHelp_head : operands.head?.any isHelp = false

/-- Every document of a run has a report. -/
structure Reports (s : Schedule) (w : World) (uses : List FlagUse) (operands : List Text) (p : Plan)
    (reports : List Report) : Prop where
  /-- There is a plan. -/
  make_eq : Plan.make w uses operands = .ok p
  /-- Its tasks are done, and these are the reports. -/
  collect_eq : TaskResult.collect p.tasks (p.results s w) = .ok reports

/-- What makes a run fail that is not for outlines. -/
inductive Obstacle (s : Schedule) (w : World) (sink : Sink) (uses : List FlagUse) (operands : List Text) :
    CommandError → Prop
  /-- Something stands in the way of a plan. -/
  | plan {e : CommandError} (h : Plan.Obstacle w uses operands e) : Obstacle s w sink uses operands e
  /-- A document cannot be linted. -/
  | file {a : Settings} {names : List Text} {t : TaskResult} {e : FileError}
      (ha : Settings.inForce w uses = .ok a)
      (hnames : (Plan.optionsOf a).expand w (Plan.arguments operands) = .ok names)
      (ht : t ∈ s.results (Plan.fileLinterOf a) w a.workers.toInt.toNat (Task.ofNames names))
      (h : t.failure? = some e) : Obstacle s w sink uses operands (.file e)
  /-- The reports cannot be written. -/
  | rendering {p : Plan} {reports : List Report} {e : RenderError}
      (hreports : Reports s w uses operands p reports)
      (h : (render sink p.format reports).2 = some e) : Obstacle s w sink uses operands (.rendering e)

/-- An obstacle that is met before anything is written. -/
def IsEarly (e : CommandError) : Prop :=
  ∀ r, e ≠ .rendering r

theorem Accepts.runWith_eq {arguments : List Text} {uses : List FlagUse} {operands : List Text}
    (h : Accepts arguments uses operands) (s : Schedule) (w : World) (sink : Sink) :
    runWith s w sink arguments = lintOrDump s w sink uses operands := by
  have hhead := h.isHelp_head
  rw [runWith, h.parse_eq]
  rcases operands with - | ⟨first, rest⟩
  · simp [h.isOn_help]
  · simp only [List.head?_cons, Option.any_some] at hhead
    simp [h.isOn_help, hhead]

section Obstacle

variable {s : Schedule} {w : World} {sink : Sink} {uses : List FlagUse} {operands : List Text} {p : Plan}
  {reports : List Report} {e : CommandError}

theorem isEarly_of_plan (h : Plan.Obstacle w uses operands e) : IsEarly e := by
  intro r
  cases h <;> simp

/-- **Where every document has a report, only writing the reports can fail.** -/
theorem Obstacle.exists_rendering (h : Obstacle s w sink uses operands e)
    (hreports : Reports s w uses operands p reports) :
    ∃ r, e = .rendering r ∧ (render sink p.format reports).2 = some r := by
  obtain ⟨hmake, hcollect⟩ := hreports
  cases h with
  | plan h => exact absurd h (Plan.not_obstacle_of_make_eq_ok hmake e)
  | file ha hnames ht hfails =>
    -- the task that fails is one of those that were collected
    obtain ⟨a, format, threshold, names, ha', -, -, hnames', rfl⟩ := Plan.make_eq_ok_iff.1 hmake
    obtain rfl : _ = a := Except.ok.inj (ha.symm.trans ha')
    obtain rfl : _ = names := Except.ok.inj (hnames.symm.trans hnames')
    have hnone := (TaskResult.collect_eq_ok_iff.1 hcollect).1 _ ht
    rw [hnone] at hfails
    cases hfails
  | rendering hreports' hrender =>
    obtain rfl := Except.ok.inj (hreports'.make_eq.symm.trans hmake)
    obtain rfl := Except.ok.inj (hreports'.collect_eq.symm.trans hcollect)
    exact ⟨_, rfl, hrender⟩

/-- **Everything that a run without outlines can do.** -/
theorem lintOrDump_cases (s : Schedule) (w : World) (sink : Sink) {uses : List FlagUse}
    (operands : List Text) (hdump : Flag.isOn uses .dumpTree = false) :
    (∃ e, Obstacle s w sink uses operands e ∧ IsEarly e ∧
      (lintOrDump s w sink uses operands).result = .error e ∧
      (lintOrDump s w sink uses operands).output = sink) ∨
    ∃ p reports, Reports s w uses operands p reports ∧
      ((∃ e, (render sink p.format reports).2 = some e ∧
        (lintOrDump s w sink uses operands).result = .error (.rendering e)) ∨
      ((render sink p.format reports).2 = none ∧
        (lintOrDump s w sink uses operands).result =
          .ok (if (Summary.ofReports reports).hasErrors then .findings else .clean))) := by
  rcases hmake : Plan.make w uses operands with e | p
  · have hrun : lintOrDump s w sink uses operands = { result := .error e, output := sink } := by
      rw [lintOrDump, hmake]
    have hobstacle := Plan.obstacle_of_make_eq_error hmake
    exact Or.inl ⟨e, .plan hobstacle, isEarly_of_plan hobstacle, by rw [hrun], by rw [hrun]⟩
  have hrun : lintOrDump s w sink uses operands = p.lint s w sink := by
    obtain ⟨a, format, threshold, names, -, -, -, -, rfl⟩ := Plan.make_eq_ok_iff.1 hmake
    simp [lintOrDump, hmake, Plan.execute, hdump]
  rw [hrun, Plan.lint]
  rcases hcollect : TaskResult.collect p.tasks (p.results s w) with e | reports
  · left
    obtain ⟨a, format, threshold, names, ha, -, -, hnames, rfl⟩ := Plan.make_eq_ok_iff.1 hmake
    obtain ⟨A, t, B, hdone, -, hfails⟩ := TaskResult.collect_eq_error_iff.1 hcollect
    have ht : t ∈ A ++ t :: B := by simp
    rw [← hdone] at ht
    exact ⟨.file e, .file ha hnames ht hfails, fun r ↦ by simp, rfl, rfl⟩
  · right
    refine ⟨p, reports, ⟨hmake, hcollect⟩, ?_⟩
    simp only [Plan.report]
    rcases render sink p.format reports with ⟨written, - | e⟩
    · exact Or.inr ⟨rfl, rfl⟩
    · exact Or.inl ⟨e, rfl, rfl⟩

/-- A run fails with an obstacle. -/
theorem obstacle_of_result_eq_error (hdump : Flag.isOn uses .dumpTree = false)
    (h : (lintOrDump s w sink uses operands).result = .error e) : Obstacle s w sink uses operands e := by
  obtain ⟨e', hobstacle, -, hresult, -⟩ | ⟨p, reports, hreports, ⟨r, hrender, hresult⟩ | ⟨-, hresult⟩⟩ :=
    lintOrDump_cases s w sink operands hdump
  · exact Except.error.inj (hresult.symm.trans h) ▸ hobstacle
  · exact Except.error.inj (hresult.symm.trans h) ▸ .rendering hreports hrender
  · rw [hresult] at h
    cases h

/-- **An obstacle makes the run fail**, though perhaps with another one. -/
theorem Obstacle.exists_result_eq_error (h : Obstacle s w sink uses operands e)
    (hdump : Flag.isOn uses .dumpTree = false) :
    ∃ e', (lintOrDump s w sink uses operands).result = .error e' := by
  obtain ⟨e', -, -, hresult, -⟩ | ⟨p, reports, hreports, ⟨r, -, hresult⟩ | ⟨hrender, -⟩⟩ :=
    lintOrDump_cases s w sink operands hdump
  · exact ⟨e', hresult⟩
  · exact ⟨_, hresult⟩
  · -- the reports were written, so that there is no obstacle
    obtain ⟨r, -, hr⟩ := h.exists_rendering hreports
    rw [hrender] at hr
    cases hr

/-- **After an early obstacle nothing is written**, whatever became of other documents. -/
theorem Obstacle.output_eq (h : Obstacle s w sink uses operands e) (hearly : IsEarly e)
    (hdump : Flag.isOn uses .dumpTree = false) : (lintOrDump s w sink uses operands).output = sink := by
  obtain ⟨-, -, -, -, houtput⟩ | ⟨p, reports, hreports, -⟩ := lintOrDump_cases s w sink operands hdump
  · exact houtput
  · obtain ⟨r, rfl, -⟩ := h.exists_rendering hreports
    exact absurd rfl (hearly r)

end Obstacle

/-! ### What the reports depend on -/

section Reports

variable {s s' : Schedule} {w : World} {environment : List (Text × Text)} {uses uses' : List FlagUse}
  {operands : List Text} {p p' : Plan} {reports reports' : List Report}

theorem Reports.inForce_eq (h : Reports s w uses operands p reports) :
    Settings.inForce w uses = .ok p.settings := by
  obtain ⟨a, format, threshold, names, ha, -, -, -, rfl⟩ := Plan.make_eq_ok_iff.1 h.make_eq
  exact ha

theorem Reports.expand_eq (h : Reports s w uses operands p reports) :
    p.options.expand w (Plan.arguments operands) = .ok p.names := by
  obtain ⟨a, format, threshold, names, -, -, -, hnames, rfl⟩ := Plan.make_eq_ok_iff.1 h.make_eq
  exact hnames

/-- **There is one report for each document, in the order of the documents.** -/
theorem Reports.map_path (h : Reports s w uses operands p reports) : reports.map (·.path) = p.names :=
  have hcompletes := p.completes_results s w
  TaskResult.map_path_of_collect hcompletes.perm hcompletes.path_eq h.collect_eq

theorem Reports.filterMap_eq (h : Reports s w uses operands p reports)
    (hinput : p.names.count stdinName ≤ 1) :
    p.tasks.filterMap (fun task ↦ (p.fileLinter.doTask w task).2.report?) = reports :=
  (forall₂_eq_some_iff.1 ((Plan.collect_results_eq_ok_iff s w hinput).1 h.collect_eq)).2

/-- **The same documents are linted in the same way** where the environment differs in nothing that names
the working directory, and settings in nothing that concerns documents. -/
theorem Reports.alike (h : Reports s w uses operands p reports)
    (h' : Reports s' { w with environment } uses' operands p' reports')
    (hdirectory : World.getVariable? { w with environment } "PWD" = w.getVariable? "PWD")
    (halike : p.settings.LintsAlike p'.settings) :
    p'.fileLinter = p.fileLinter ∧ p'.tasks = p.tasks := by
  have hlinter : p'.fileLinter = p.fileLinter := by
    rw [Plan.fileLinter_eq, Plan.fileLinter_eq, Plan.fileLinterOf_congr halike]
  have hexpand := h'.expand_eq
  rw [show p'.options = p.options from congrArg FileLinter.options hlinter,
    FileOptions.expand_environment _ _ hdirectory, h.expand_eq] at hexpand
  exact ⟨hlinter, congrArg Task.ofNames (Except.ok.inj hexpand).symm⟩

/-- A run without outlines that does not fail has reports, and their findings decide its code. -/
theorem exists_reports_of_code (hdump : Flag.isOn uses .dumpTree = false) {sink : Sink}
    (hcode : (lintOrDump s w sink uses operands).code ≠ 2) :
    ∃ p reports, Reports s w uses operands p reports ∧
      ((lintOrDump s w sink uses operands).code = 1 ↔ 0 < (Summary.ofReports reports).diagnostics) := by
  obtain ⟨e, -, -, hresult, -⟩ | ⟨p, reports, hreports, ⟨e, -, hresult⟩ | ⟨-, hresult⟩⟩ :=
    lintOrDump_cases s w sink operands hdump
  · exact absurd (Outcome.code_eq_two_iff.2 ⟨e, hresult⟩) hcode
  · exact absurd (Outcome.code_eq_two_iff.2 ⟨_, hresult⟩) hcode
  · refine ⟨p, reports, hreports, ?_⟩
    rw [Outcome.code_eq_one_iff, hresult, Summary.hasErrors]
    by_cases hpos : 0 < (Summary.ofReports reports).diagnostics <;> simp [hpos]

/-- Standard input cannot tell two runs apart: it is one document at most, or there are as many workers,
which share it in the same way. -/
inductive ReadsInputAlike (s s' : Schedule) (w : World) (environment : List (Text × Text))
    (uses uses' : List FlagUse) (operands : List Text) : Prop
  /-- It is one document at most. -/
  | once (h : ∀ p, Plan.make w uses operands = .ok p → p.names.count stdinName ≤ 1) :
    ReadsInputAlike s s' w environment uses uses' operands
  /-- It is shared in the same way. -/
  | shared (hschedule : s' = s) (henvironment : environment = w.environment)
    (hworkers : ∀ a b, Settings.inForce w uses = .ok a →
      Settings.inForce { w with environment } uses' = .ok b → a.workers = b.workers) :
    ReadsInputAlike s s' w environment uses uses' operands

/-- **The reports depend on the documents only.** -/
theorem Reports.eq_of_alike (h : Reports s w uses operands p reports)
    (h' : Reports s' { w with environment } uses' operands p' reports')
    (hdirectory : World.getVariable? { w with environment } "PWD" = w.getVariable? "PWD")
    (halike : p.settings.LintsAlike p'.settings)
    (hinput : ReadsInputAlike s s' w environment uses uses' operands) : reports' = reports := by
  obtain ⟨hlinter, htasks⟩ := h.alike h' hdirectory halike
  cases hinput with
  | once honce =>
    have hcount := honce p h.make_eq
    have hcount' : p'.names.count stdinName ≤ 1 := by
      rw [← Task.countP_ofNames, ← Plan.tasks] at hcount ⊢
      rwa [htasks]
    rw [← h.filterMap_eq hcount, ← h'.filterMap_eq hcount', hlinter, htasks]
    exact List.filterMap_congr fun task _ ↦ by
      rw [FileLinter.doTask_environment _ _ hdirectory]
  | shared hschedule henvironment hworkers =>
    subst hschedule henvironment
    have hresults : p'.results s' w = p.results s' w := by
      rw [Plan.results, Plan.results, hlinter, htasks, hworkers _ _ h.inForce_eq h'.inForce_eq]
    have hcollect := h'.collect_eq
    rw [htasks, show p'.results s' _ = _ from hresults, h.collect_eq] at hcollect
    exact (Except.ok.inj hcollect).symm

/-- **The code of runs that do not fail depends on the documents only.** -/
theorem code_eq_of_alike {sink sink' : Sink} (hdump : Flag.isOn uses .dumpTree = false)
    (hdump' : Flag.isOn uses' .dumpTree = false)
    (hdirectory : World.getVariable? { w with environment } "PWD" = w.getVariable? "PWD")
    (halike : ∀ a b, Settings.inForce w uses = .ok a →
      Settings.inForce { w with environment } uses' = .ok b → a.LintsAlike b)
    (hinput : ReadsInputAlike s s' w environment uses uses' operands)
    (hcode : (lintOrDump s w sink uses operands).code ≠ 2)
    (hcode' : (lintOrDump s' { w with environment } sink' uses' operands).code ≠ 2) :
    (lintOrDump s' { w with environment } sink' uses' operands).code =
      (lintOrDump s w sink uses operands).code := by
  obtain ⟨p, reports, hreports, hone⟩ := exists_reports_of_code hdump hcode
  obtain ⟨p', reports', hreports', hone'⟩ := exists_reports_of_code hdump' hcode'
  rw [hreports.eq_of_alike hreports' hdirectory
    (halike _ _ hreports.inForce_eq hreports'.inForce_eq) hinput] at hone'
  have hcases := (lintOrDump s w sink uses operands).code_cases
  have hcases' := (lintOrDump s' { w with environment } sink' uses' operands).code_cases
  omega

end Reports

/-- **The exit code tells the outcome.** Arguments that can be understood and do not ask for help are given
in any world and under any schedule.

The code is zero, one or two, and there is a line on standard error just when it is two. At least one worker
is in force, so that the documents are linted in the end. A run that is not for outlines has code two just
when there is an obstacle; it fails with one, and if any is met before the reports are written then
nothing is written at all, whatever became of other documents. Otherwise every document has a report, and
the code is one just when some report has a finding, that is, when the summary counts any.

The code of a run that does not fail is then also that of any other such run on the same documents: into
another sink, with settings from other flags or another environment that differ in the format, the
number of workers or the log. If standard input is one document at most, it does not matter either how many
workers there are and under which schedule. -/
theorem exit_code_tells_outcome (s : Schedule) (w : World) (sink : Sink) {arguments : List Text}
    {uses : List FlagUse} {operands : List Text} (h : Accepts arguments uses operands) :
    ((runWith s w sink arguments).code = 0 ∨ (runWith s w sink arguments).code = 1 ∨
      (runWith s w sink arguments).code = 2) ∧
    ((runWith s w sink arguments).errorText ≠ [] ↔ (runWith s w sink arguments).code = 2) ∧
    (∀ e, (runWith s w sink arguments).result = .error e → (runWith s w sink arguments).errorText =
      Text.ofString "yamlint: " ++ e.message ++ Text.ofString "\n") ∧
    (∀ a, Settings.inForce w uses = .ok a → 1 ≤ a.workers.toInt) ∧
    (Flag.isOn uses .dumpTree = false →
      ((runWith s w sink arguments).code = 2 ↔ ∃ e, Obstacle s w sink uses operands e) ∧
      (∀ e, (runWith s w sink arguments).result = .error e → Obstacle s w sink uses operands e) ∧
      (∀ e, Obstacle s w sink uses operands e → IsEarly e →
        (runWith s w sink arguments).output = sink) ∧
      ((runWith s w sink arguments).code ≠ 2 →
        ∃ p reports, Reports s w uses operands p reports ∧ reports.map (·.path) = p.names ∧
          ((runWith s w sink arguments).code = 1 ↔ ∃ r ∈ reports, r.diagnostics ≠ []) ∧
          ((runWith s w sink arguments).code = 1 ↔ 0 < (Summary.ofReports reports).diagnostics) ∧
          (Summary.ofReports reports).diagnostics = (reports.map (·.diagnostics.length)).sum) ∧
      ∀ (s' : Schedule) (environment : List (Text × Text)) (sink' : Sink) (arguments' : List Text)
        (uses' : List FlagUse), Accepts arguments' uses' operands →
        Flag.isOn uses' .dumpTree = false →
        World.getVariable? { w with environment } "PWD" = w.getVariable? "PWD" →
        (∀ a b, Settings.inForce w uses = .ok a →
          Settings.inForce { w with environment } uses' = .ok b → a.LintsAlike b) →
        ReadsInputAlike s s' w environment uses uses' operands →
        (runWith s w sink arguments).code ≠ 2 →
        (runWith s' { w with environment } sink' arguments').code ≠ 2 →
        (runWith s' { w with environment } sink' arguments').code =
          (runWith s w sink arguments).code) := by
  refine ⟨Outcome.code_cases _, Outcome.errorText_ne_nil_iff, fun e ↦ Outcome.errorText_eq,
    fun a ↦ Settings.one_le_workers h.parse_eq, fun hdump ↦ ?_⟩
  simp only [h.runWith_eq]
  refine ⟨⟨fun hcode ↦ ?_, ?_⟩, fun e he ↦ obstacle_of_result_eq_error hdump he,
    fun e he hearly ↦ he.output_eq hearly hdump, fun hcode ↦ ?_, ?_⟩
  · obtain ⟨e, he⟩ := Outcome.code_eq_two_iff.1 hcode
    exact ⟨e, obstacle_of_result_eq_error hdump he⟩
  · rintro ⟨e, he⟩
    exact Outcome.code_eq_two_iff.2 (he.exists_result_eq_error hdump)
  · obtain ⟨p, reports, hreports, hone⟩ := exists_reports_of_code hdump hcode
    exact ⟨p, reports, hreports, hreports.map_path, hone.trans Summary.diagnostics_ofReports_pos_iff, hone,
      Summary.diagnostics_ofReports reports⟩
  · intro s' environment sink' arguments' uses' h' hdump' hdirectory halike hinput hcode hcode'
    rw [h'.runWith_eq] at hcode' ⊢
    exact code_eq_of_alike hdump hdump' hdirectory halike hinput hcode hcode'

/-- A file that is a list item, and an input. -/
def oneFile (input : Source) : World where
  files := ⟨[([Text.ofString "a"], .file (Text.ofString "- x"))]⟩
  input := input

/-- The settings in force are the defaults, where flags do not say otherwise. -/
theorem inForce_oneFile (input : Source) {uses : List FlagUse} (h : Flag.text? uses .config = none) :
    Settings.inForce (oneFile input) uses = .ok (({} : Settings).withFlags uses) := by
  have hfound : Settings.foundEntries (oneFile input) = .ok [] := by cbv
  have hdefaults : Settings.ofSources { environment := [], entries := [] } = {} := rfl
  have hload : Settings.load (oneFile input) [] = .ok {} := by
    rw [Settings.load, if_pos (by rfl), hfound]
    exact congrArg Except.ok hdefaults
  rw [Settings.inForce, h, Option.getD_none, hload]
  rfl

/-- An input that breaks: the file has a report, and nothing of it is written. -/
theorem exit_code_tells_outcome_broken_input :
    ∃ uses, Accepts [Text.ofString "-f", Text.ofString "json", Text.ofString "a", stdinName] uses
        [Text.ofString "a", stdinName] ∧
      (∃ t ∈ (Schedule.inTurn 0).results (Plan.fileLinterOf {}) (oneFile ⟨[], some (Text.ofString "broken")⟩)
          4 (Task.ofNames [Text.ofString "a", stdinName]), t.failure? = none) ∧
      (runWith (.inTurn 0) (oneFile ⟨[], some (Text.ofString "broken")⟩) {}
        [Text.ofString "-f", Text.ofString "json", Text.ofString "a", stdinName]).code = 2 ∧
      (runWith (.inTurn 0) (oneFile ⟨[], some (Text.ofString "broken")⟩) {}
        [Text.ofString "-f", Text.ofString "json", Text.ofString "a", stdinName]).output = {} := by
  have haccepts : Accepts [Text.ofString "-f", Text.ofString "json", Text.ofString "a", stdinName]
      [⟨.format, Text.ofString "f", .text (Text.ofString "json")⟩] [Text.ofString "a", stdinName] :=
    ⟨by decide, by decide, by decide⟩
  -- each task becomes what it would alone
  have hmem : ∀ task ∈ Task.ofNames [Text.ofString "a", stdinName],
      ((Plan.fileLinterOf {}).doTask (oneFile ⟨[], some (Text.ofString "broken")⟩) task).2 ∈
        (Schedule.inTurn 0).results (Plan.fileLinterOf {}) (oneFile ⟨[], some (Text.ofString "broken")⟩)
          4 (Task.ofNames [Text.ofString "a", stdinName]) :=
    fun task ↦ ((Schedule.inTurn 0).completes _ _ _ _).mem_doTask (by decide)
  have hfile : ((Plan.fileLinterOf {}).doTask (oneFile ⟨[], some (Text.ofString "broken")⟩)
      ⟨0, Text.ofString "a"⟩).2.failure? = none := by cbv
  have hinput : ((Plan.fileLinterOf {}).doTask (oneFile ⟨[], some (Text.ofString "broken")⟩)
      ⟨1, stdinName⟩).2.failure? =
        some (.unreadable stdinName (.failed (Text.ofString "broken"))) := by cbv
  have hobstacle : Obstacle (.inTurn 0) (oneFile ⟨[], some (Text.ofString "broken")⟩) {}
      [⟨.format, Text.ofString "f", .text (Text.ofString "json")⟩] [Text.ofString "a", stdinName]
      (.file (.unreadable stdinName (.failed (Text.ofString "broken")))) :=
    .file (inForce_oneFile _ (by decide)) (by cbv) (hmem ⟨1, stdinName⟩ (by decide)) hinput
  obtain ⟨htwo, -, houtput, -⟩ := (exit_code_tells_outcome (.inTurn 0)
    (oneFile ⟨[], some (Text.ofString "broken")⟩) {} haccepts).2.2.2.2 (by decide)
  exact ⟨_, haccepts, ⟨_, hmem ⟨0, Text.ofString "a"⟩ (by decide), hfile⟩, htwo.2 ⟨_, hobstacle⟩,
    houtput _ hobstacle fun r ↦ by simp⟩

/-- A file called like standard input, settings under which it is looked for, and an input. -/
def sharedInput : World where
  files := ⟨[([Text.ofString "c.json"], .file (Text.ofString "\x7b\"extensions\":[\"\"]\x7d")),
    ([stdinName], .file [])]⟩
  input := ⟨Text.ofString "  k:\n  - x\n", none⟩

/-- Arguments that ask for a number of workers. -/
def sharedArguments (workers : String) : List Text :=
  [Text.ofString "-c", Text.ofString "c.json", Text.ofString "--workers", Text.ofString workers, stdinName,
    Text.ofString "."]

/-- The flags among them. -/
def sharedUses (workers : ℤ) : List FlagUse :=
  [⟨.config, Text.ofString "c", .text (Text.ofString "c.json")⟩,
    ⟨.workers, Text.ofString "workers", .number workers⟩]

/-- The plan for them, in which standard input is two documents. -/
def sharedPlan (workers : Int64) : Plan where
  settings := { extensions := [[]], workers }
  format := .text
  logger := ⟨.warn, false⟩
  names := [stdinName, stdinName]
  isDump := false

theorem make_sharedInput {workers : ℤ} (hpos : 0 < workers) :
    Plan.make sharedInput (sharedUses workers) [stdinName, Text.ofString "."] =
      .ok (sharedPlan (Int64.ofInt workers)) := by
  have hentries : Settings.entriesOf sharedInput (Text.ofString "c.json") =
      .ok [(Text.ofString "extensions", .list [.str []])] := by cbv
  have hsettings : Settings.ofSources ⟨[], [(Text.ofString "extensions", .list [.str []])]⟩ =
      { extensions := [[]] } := by decide +kernel
  have hload : Settings.load sharedInput (Text.ofString "c.json") = .ok { extensions := [[]] } := by
    rw [Settings.load, if_neg (by decide), hentries]
    exact congrArg Except.ok hsettings
  have hconfig : (Flag.text? (sharedUses workers) .config).getD [] = Text.ofString "c.json" := rfl
  have hnumber : Flag.number? (sharedUses workers) .workers = some workers := rfl
  have hforce : Settings.inForce sharedInput (sharedUses workers) =
      .ok { extensions := [[]], workers := Int64.ofInt workers } := by
    rw [Settings.inForce, hconfig, hload, Except.map, Settings.withFlags, hnumber, Option.filter_some,
      if_pos (by simpa using hpos)]
    rfl
  exact Plan.make_eq_ok_iff.2 ⟨_, .text, .warn, _, hforce, by cbv, by cbv, by cbv, rfl⟩

theorem code_sharedInput {arguments : List Text} {workers : ℤ} (hpos : 0 < workers)
    (h : Accepts arguments (sharedUses workers) [stdinName, Text.ofString "."]) (s : Schedule) (sink : Sink) :
    (runWith s sharedInput sink arguments).code =
      ((sharedPlan (Int64.ofInt workers)).lint s sharedInput sink).code := by
  rw [h.runWith_eq, lintOrDump, make_sharedInput hpos]
  rfl

/-- **The number of workers decides the code where standard input is two documents.** One worker reads all of
it for the first, in which the item is below its key. Of two workers, one gets the line with the key, and
the other that with the item, which is then an orphan. -/
theorem exit_code_depends_on_workers :
    Accepts (sharedArguments "2") (sharedUses 2) [stdinName, Text.ofString "."] ∧
      Accepts (sharedArguments "1") (sharedUses 1) [stdinName, Text.ofString "."] ∧
      (runWith (.inTurn 4) sharedInput {} (sharedArguments "2")).code = 1 ∧
      (runWith (.inTurn 4) sharedInput {} (sharedArguments "1")).code = 0 := by
  have htwo : Accepts (sharedArguments "2") (sharedUses 2) [stdinName, Text.ofString "."] :=
    ⟨by decide +kernel, by decide, by decide⟩
  have hone : Accepts (sharedArguments "1") (sharedUses 1) [stdinName, Text.ofString "."] :=
    ⟨by decide +kernel, by decide, by decide⟩
  have hfindings : ((sharedPlan (Int64.ofInt 2)).lint (.inTurn 4) sharedInput {}).code = 1 := by cbv
  have hclean : ((sharedPlan (Int64.ofInt 1)).lint (.inTurn 4) sharedInput {}).code = 0 := by cbv
  exact ⟨htwo, hone, (code_sharedInput (by decide) htwo _ _).trans hfindings,
    (code_sharedInput (by decide) hone _ _).trans hclean⟩

end Command

end StructuralLint
