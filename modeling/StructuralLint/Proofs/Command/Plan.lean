import Mathlib
import StructuralLint.Command.Run
import StructuralLint.Proofs.Command.Task

/-!
# What a plan rests on

A plan is made from the settings in force, and each part of it can fail on its own: the settings may not
load, and the format, the log level and the documents are read off the settings (`Plan.make_eq_ok_iff`).
What is linted, and how, depends on three settings only (`Settings.LintsAlike`). The environment matters
for the settings, and after them it does no more than name the working directory, so that runs in which that
has one name and whose settings agree in these three find the same documents and the same things in
each of them (`FileOptions.expand_environment`, `FileLinter.doTask_environment`), whatever the format, the
number of workers and the log.

The number of workers in force is positive wherever it comes from (`Settings.one_le_workers`).
-/

namespace StructuralLint

/-! ### One step after the other -/

section Except

variable {α β ε ε' : Type} {x : Except ε α}

theorem bind_eq_ok_iff {f : α → Except ε β} {b : β} :
    (x >>= f) = .ok b ↔ ∃ a, x = .ok a ∧ f a = .ok b := by
  rcases x with e | a <;> simp [bind, Except.bind]

theorem bind_eq_error_iff {f : α → Except ε β} {e : ε} :
    (x >>= f) = .error e ↔ x = .error e ∨ ∃ a, x = .ok a ∧ f a = .error e := by
  rcases x with e' | a <;> simp [bind, Except.bind]

theorem mapError_eq_ok_iff {g : ε → ε'} {a : α} : x.mapError g = .ok a ↔ x = .ok a := by
  rcases x with e | a' <;> simp [Except.mapError]

theorem mapError_eq_error_iff {g : ε → ε'} {e' : ε'} :
    x.mapError g = .error e' ↔ ∃ e, x = .error e ∧ g e = e' := by
  rcases x with e | a <;> simp [Except.mapError]

end Except

/-! ### The settings in force -/

namespace Settings

/-- The settings in force for a run: those that are loaded, under its flags. -/
def inForce (w : World) (uses : List FlagUse) : Except LoadError Settings :=
  (load w ((Flag.text? uses .config).getD [])).map (·.withFlags uses)

/-- Settings under which the same documents are found and linted in the same way. The format, the number
of workers and the log do not matter. -/
structure LintsAlike (a b : Settings) : Prop where
  /-- The same files are looked for. -/
  extensions_eq : a.extensions = b.extensions
  /-- Findings are numbered alike. -/
  legacyLineNumbers_eq : a.legacyLineNumbers = b.legacyLineNumbers
  /-- Unindented lines have the same indent. -/
  zeroIndentFallback_eq : a.zeroIndentFallback = b.zeroIndentFallback

end Settings

/-! ### Plans -/

namespace Plan

/-- A file linter under some settings that has not been asked for anything. -/
def fileLinterOf (a : Settings) : FileLinter where
  options := optionsOf a
  linter := { zeroIndentFallback := a.zeroIndentFallback, legacyLineNumbers := a.legacyLineNumbers }

theorem fileLinter_eq (p : Plan) : p.fileLinter = fileLinterOf p.settings := rfl

theorem fileLinterOf_congr {a b : Settings} (h : a.LintsAlike b) : fileLinterOf a = fileLinterOf b := by
  rw [fileLinterOf, fileLinterOf, optionsOf, optionsOf, h.extensions_eq, h.legacyLineNumbers_eq,
    h.zeroIndentFallback_eq]

/-- What stands in the way of a plan. Each case names only what it needs: there may be no such format and no
such level, and the arguments may not expand, all at once. -/
inductive Obstacle (w : World) (uses : List FlagUse) (operands : List Text) : CommandError → Prop
  /-- The settings cannot be loaded. -/
  | settings {e : LoadError} (h : Settings.inForce w uses = .error e) : Obstacle w uses operands (.settings e)
  /-- There is no such format. -/
  | format {a : Settings} {e : FormatError} (ha : Settings.inForce w uses = .ok a)
      (h : Format.parse a.format = .error e) : Obstacle w uses operands (.format e)
  /-- There is no such log level. -/
  | level {a : Settings} {e : LevelError} (ha : Settings.inForce w uses = .ok a)
      (h : Level.parse a.logLevel = .error e) : Obstacle w uses operands (.level e)
  /-- The arguments cannot be expanded. -/
  | expansion {a : Settings} {e : ExpandError} (ha : Settings.inForce w uses = .ok a)
      (h : (optionsOf a).expand w (arguments operands) = .error e) : Obstacle w uses operands (.expansion e)

variable {w : World} {uses : List FlagUse} {operands : List Text} {p : Plan}

theorem make_eq (w : World) (uses : List FlagUse) (operands : List Text) :
    make w uses operands =
      (Settings.inForce w uses).mapError .settings >>= fun a =>
        (Format.parse a.format).mapError .format >>= fun format =>
          (Level.parse a.logLevel).mapError .level >>= fun threshold =>
            ((optionsOf a).expand w (arguments operands)).mapError .expansion >>= fun names =>
              .ok ⟨a, format, ⟨threshold, a.logDevelopment⟩, names, Flag.isOn uses .dumpTree⟩ := by
  rw [make, Settings.inForce]
  rcases Settings.load w ((Flag.text? uses .config).getD []) with e | loaded <;> rfl

/-- A plan holds what each step gave. -/
theorem make_eq_ok_iff : make w uses operands = .ok p ↔ ∃ a format threshold names,
    Settings.inForce w uses = .ok a ∧ Format.parse a.format = .ok format ∧
      Level.parse a.logLevel = .ok threshold ∧
      (optionsOf a).expand w (arguments operands) = .ok names ∧
      p = ⟨a, format, ⟨threshold, a.logDevelopment⟩, names, Flag.isOn uses .dumpTree⟩ := by
  simp only [make_eq, bind_eq_ok_iff, mapError_eq_ok_iff, Except.ok.injEq, eq_comm (a := p),
    exists_and_left]

/-- **A plan fails with one of the things that stand in its way.** -/
theorem obstacle_of_make_eq_error {e : CommandError} (h : make w uses operands = .error e) :
    Obstacle w uses operands e := by
  simp only [make_eq, bind_eq_error_iff, mapError_eq_error_iff, mapError_eq_ok_iff, reduceCtorEq, and_false,
    exists_false, or_false] at h
  obtain ⟨e, ha, rfl⟩ | ⟨a, ha, ⟨e, hformat, rfl⟩ | ⟨-, -, ⟨e, hlevel, rfl⟩ | ⟨-, -, e, hnames, rfl⟩⟩⟩ := h
  · exact .settings ha
  · exact .format ha hformat
  · exact .level ha hlevel
  · exact .expansion ha hnames

/-- **Where a plan is made, nothing stands in its way.** -/
theorem not_obstacle_of_make_eq_ok (h : make w uses operands = .ok p) (e : CommandError) :
    ¬ Obstacle w uses operands e := by
  obtain ⟨a, format, threshold, names, ha, hformat, hlevel, hnames, -⟩ := make_eq_ok_iff.1 h
  rintro (⟨h⟩ | ⟨ha', h⟩ | ⟨ha', h⟩ | ⟨ha', h⟩)
  · rw [ha] at h
    cases h
  all_goals
    rw [ha] at ha'
    cases ha'
  · rw [hformat] at h
    cases h
  · rw [hlevel] at h
    cases h
  · rw [hnames] at h
    cases h

end Plan

/-! ### The environment -/

section Environment

variable {w : World} {environment : List (Text × Text)}

theorem World.walkFrom_environment (fuel : ℕ) (path : Text) (e : Entry) :
    walkFrom { w with environment } fuel path e = walkFrom w fuel path e := by
  induction fuel generalizing path e with
  | zero => rfl
  | succ fuel ih =>
    have hdirectory : readDirectory { w with environment } path = readDirectory w path := rfl
    simp only [walkFrom, hdirectory, ih]

/-- **Of the environment, only the name of the working directory matters** for what a name stands for. -/
theorem FileOptions.resolve_environment (o : FileOptions) (name : Text)
    (h : World.getVariable? { w with environment } "PWD" = w.getVariable? "PWD") :
    o.resolve { w with environment } name = o.resolve w name := by
  have hdirectory : World.workingDirectoryName? { w with environment } = w.workingDirectoryName? := by
    rw [World.workingDirectoryName?, World.workingDirectoryName?, h]
    rfl
  rw [resolve, resolve, World.absolute, World.absolute, hdirectory]

/-- The same holds for what arguments stand for. -/
theorem FileOptions.expand_environment (o : FileOptions) (arguments : List Text)
    (h : World.getVariable? { w with environment } "PWD" = w.getVariable? "PWD") :
    o.expand { w with environment } arguments = o.expand w arguments := by
  have hwalk : ∀ path, World.walk { w with environment } path = World.walk w path := by
    intro path
    simp only [World.walk, World.walkFrom_environment]
    rfl
  have hfound : o.found { w with environment } = o.found w := by
    funext argument path
    simp only [found, o.resolve_environment _ h]
  have hcandidates : o.candidates { w with environment } = o.candidates w := by
    funext argument
    simp only [candidates, foundBelow, hwalk, hfound, o.resolve_environment _ h]
    rfl
  simp only [expand, hcandidates]

/-- The same holds for what becomes of a task. -/
theorem FileLinter.doTask_environment (f : FileLinter) (task : Task)
    (h : World.getVariable? { w with environment } "PWD" = w.getVariable? "PWD") :
    (f.doTask { w with environment } task).2 = (f.doTask w task).2 := by
  rw [doTask, doTask]
  split
  · rfl
  · simp only [lintFileTraced, f.options.resolve_environment _ h]
    rfl

end Environment

/-! ### The number of workers -/

theorem Integer.lt_of_parse {t : Text} {n : ℤ} (h : Integer.parse t = .ok n) : n < signedLimit := by
  obtain ⟨m, -, hsign⟩ := bind_eq_ok_iff.1 h
  rw [withSign] at hsign
  split_ifs at hsign with hnegative hle hlt
  · cases hsign
    have hpos : 0 < signedLimit := by decide
    omega
  · cases hsign
    exact_mod_cast hlt

namespace Flag

theorem withUse_eq_ok_iff {flag : Flag} {name : Text} {value : Except UsageError FlagValue}
    {rest : Except UsageError (List FlagUse × List Text)} {uses : List FlagUse} {operands : List Text} :
    withUse flag name value rest = .ok (uses, operands) ↔
      ∃ v others, value = .ok v ∧ rest = .ok (others, operands) ∧ uses = ⟨flag, name, v⟩ :: others := by
  rw [withUse, bind_eq_ok_iff]
  constructor
  · rintro ⟨v, hv, h⟩
    obtain ⟨⟨others, operands'⟩, hrest, h⟩ := bind_eq_ok_iff.1 h
    cases h
    exact ⟨v, others, hv, hrest, rfl⟩
  · rintro ⟨v, others, hv, rfl, rfl⟩
    exact ⟨v, hv, rfl⟩

theorem lt_of_givenValue {flag : Flag} {name value : Text} {n : ℤ}
    (h : givenValue flag name value = .ok (.number n)) : n < signedLimit := by
  rw [givenValue] at h
  split at h
  · split at h
    · next hparse =>
      cases h
      exact Integer.lt_of_parse hparse
    · cases h
  · cases h

theorem switchValue_ne_number {name : Text} {value : Option Text} {n : ℤ} :
    switchValue name value ≠ .ok (.number n) := by
  fun_cases switchValue name value <;> simp

/-- The numbers that flags are given fit into 64 bits. -/
theorem lt_of_mem_readUses {flags : List Flag} {arguments operands : List Text} {uses : List FlagUse}
    (h : readUses flags arguments = .ok (uses, operands)) {u : FlagUse} (hu : u ∈ uses) {n : ℤ}
    (hn : u.value = .number n) : n < signedLimit := by
  fun_induction readUses flags arguments generalizing uses operands with
  | case1 | case2 | case3 =>
    cases h
    cases hu
  | case4 | case5 | case9 => cases h
  | case6 _ _ _ _ _ _ _ _ ih =>
    obtain ⟨v, others, hv, hrest, rfl⟩ := withUse_eq_ok_iff.1 h
    rcases List.mem_cons.1 hu with rfl | hu
    · obtain rfl : v = .number n := hn
      exact absurd hv switchValue_ne_number
    · exact ih hrest hu
  | case7 _ _ _ _ _ _ _ _ ih | case8 _ _ _ _ _ _ _ _ ih =>
    obtain ⟨v, others, hv, hrest, rfl⟩ := withUse_eq_ok_iff.1 h
    rcases List.mem_cons.1 hu with rfl | hu
    · obtain rfl : v = .number n := hn
      exact lt_of_givenValue hv
    · exact ih hrest hu

/-- Flags are read, and then the first that is used under both its names is refused. -/
theorem parse_eq (flags : List Flag) (arguments : List Text) :
    parse flags arguments = readUses flags arguments >>= fun parsed =>
      (mixed? flags parsed.1).elim (.ok parsed) .error := by
  rw [parse]
  rcases readUses flags arguments with e | ⟨uses, operands⟩
  · rfl
  · simp only [bind, Except.bind]
    rcases mixed? flags uses with - | e <;> rfl

theorem readUses_of_parse {flags : List Flag} {arguments operands : List Text} {uses : List FlagUse}
    (h : parse flags arguments = .ok (uses, operands)) :
    readUses flags arguments = .ok (uses, operands) := by
  rw [parse_eq] at h
  obtain ⟨parsed, hread, h⟩ := bind_eq_ok_iff.1 h
  rcases hmixed : mixed? flags parsed.1 with - | e
  · rw [hmixed] at h
    exact hread.trans h
  · rw [hmixed] at h
    cases h

theorem exists_mem_of_number? {uses : List FlagUse} {flag : Flag} {n : ℤ}
    (h : number? uses flag = some n) : ∃ u ∈ uses, u.value = .number n := by
  rw [number?] at h
  split at h
  · next hvalue =>
    cases h
    obtain ⟨u, hu, hn⟩ := Option.map_eq_some_iff.1 hvalue
    exact ⟨u, List.mem_of_mem_filter (List.mem_of_getLast? hu), hn⟩
  · cases h

end Flag

namespace Settings

/-- Settings come with at least one worker. -/
theorem one_le_workers_of_load {w : World} {path : Text} {a : Settings} (h : load w path = .ok a) :
    1 ≤ a.workers.toInt := by
  rw [load] at h
  split at h
  · cases h
  · cases h
    rw [ofSources]
    dsimp only
    split
    · decide
    · next hlt =>
      rw [Int64.lt_iff_toInt_lt] at hlt
      have hone : (1 : Int64).toInt = 1 := by decide
      omega

/-- The number of workers in force is the loaded one or a positive number from a flag. -/
theorem workers_withFlags (a : Settings) (uses : List FlagUse) :
    (a.withFlags uses).workers = a.workers ∨
      ∃ n, 0 < n ∧ Flag.number? uses .workers = some n ∧ (a.withFlags uses).workers = Int64.ofInt n := by
  rcases hn : Flag.number? uses .workers with - | n
  · exact Or.inl (by simp [withFlags, hn])
  · by_cases hpos : 0 < n
    · exact Or.inr ⟨n, hpos, rfl, by simp [withFlags, hn, Option.filter, hpos]⟩
    · exact Or.inl (by simp [withFlags, hn, Option.filter, hpos])

/-- **At least one worker is in force.** -/
theorem one_le_workers {w : World} {arguments operands : List Text} {uses : List FlagUse} {a : Settings}
    (hparse : Flag.parse Flag.all arguments = .ok (uses, operands)) (ha : inForce w uses = .ok a) :
    1 ≤ a.workers.toInt := by
  rw [inForce] at ha
  rcases hload : load w ((Flag.text? uses .config).getD []) with e | loaded
  · rw [hload] at ha
    cases ha
  rw [hload] at ha
  cases ha
  rcases workers_withFlags loaded uses with hworkers | ⟨n, hpos, hnumber, hworkers⟩
  · rw [hworkers]
    exact one_le_workers_of_load hload
  · -- the parser admits no number of more than 64 bits, so this one is what it says
    obtain ⟨u, hu, hn⟩ := Flag.exists_mem_of_number? hnumber
    have hlt := Flag.lt_of_mem_readUses (Flag.readUses_of_parse hparse) hu hn
    have hlimit : (signedLimit : ℤ) = 2 ^ 63 := by decide
    rw [hworkers, Int64.toInt_ofInt_of_le (by omega) (by omega)]
    omega

end Settings

end StructuralLint
