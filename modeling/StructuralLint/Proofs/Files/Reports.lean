import StructuralLint.Proofs.Files.History
import StructuralLint.Proofs.Files.Input

/-!
# The reports of an expansion

A file linter expands its arguments and lints the names one after the other. Expansion and linting each
keep a list of absolute paths: the keys of the names that were kept, and the paths that were visited.
Since a name resolves to its key, a new file linter does not refuse a name of its own expansion.

`lintNames` changes nothing but the visited paths and what is left of standard input, so every name is
resolved, opened and read as it would be at the start. `Completed` says what that makes of names that
were all linted: one report for each (`ReportOf`), every path visited from now on, and none of them before.
It is built up one name at a time (`Completed.cons`). The last part is what refuses a second run over one of
the files.
-/

namespace StructuralLint

namespace FileLinter

/-- **The report of a name**: under the name, and with the findings in the lines of the file. -/
structure ReportOf (f : FileLinter) (w : World) (name : Text) (r : Report) : Prop where
  /-- It is filed under the name as it is. -/
  path_eq : r.path = name
  /-- The findings are those in the lines that are read by this name. -/
  diagnostics_eq : name ≠ stdinName →
    ∃ lines, f.readLines w name = .ok lines ∧ r.diagnostics = f.linter.lint lines

/-- **What has happened once all names are linted**, `final` being what is visited then. -/
structure Completed (f : FileLinter) (w : World) (names : List Text) (reports : List Report)
    (final : List Text) : Prop where
  /-- Each name has its report, in order. -/
  forall₂_reportOf : List.Forall₂ (f.ReportOf w) names reports
  /-- The files of the names have been visited, in addition to those before. -/
  mem_final_iff : ∀ path, path ∈ final ↔ path ∈ f.visited ∨
    ∃ name ∈ names, name ≠ stdinName ∧ f.options.resolve w name = .ok path
  /-- None of them had been visited before. -/
  resolve_ne : ∀ name ∈ names, name ≠ stdinName → ∀ path ∈ f.visited, f.options.resolve w name ≠ .ok path

/-! ### One name -/

variable {f : FileLinter} {w : World} {name path : Text} {r : Report}

/-- **A file that is linted is read as `readLines` reads it.** -/
theorem reportOf_of_lintAt (hpath : f.options.resolve w name = .ok path)
    (h : (f.lintAt w name path).map (·.1) = .ok r) : f.ReportOf w name r := by
  rw [lintAt] at h
  rcases hopen : w.openFile path with e | source
  · rw [hopen] at h
    cases h
  · rcases hread : source.read with ⟨lines, - | e⟩
    · rw [hopen] at h
      simp only [lintSourceTraced, hread] at h
      cases h
      refine ⟨rfl, fun _ ↦ ⟨lines, ?_, rfl⟩⟩
      simp only [readLines, hpath, hopen, hread]
    · rw [hopen] at h
      simp only [lintSourceTraced, hread] at h
      cases h

/-- Lines are read from some path. -/
theorem exists_resolve_of_readLines {lines : List Line} (h : f.readLines w name = .ok lines) :
    ∃ path, f.options.resolve w name = .ok path := by
  rw [readLines] at h
  split at h
  · cases h
  · next path hpath => exact ⟨path, hpath⟩

/-- Standard input is reported under its own name. -/
theorem reportOf_of_lintSource {source : Source} (h : f.lintSource stdinName source = .ok r) :
    f.ReportOf w stdinName r := by
  rw [lintSource, lintSourceTraced] at h
  split at h
  · cases h
  · cases h
    exact ⟨rfl, fun hne ↦ absurd rfl hne⟩

/-- **What linting one name does** when it succeeds: it visits a path that had not been visited, or reads
standard input, and touches nothing else. -/
theorem completed_lintName {f' : FileLinter} {w' : World} (h : f.lintName w name = (f', w', .ok r)) :
    f.Completed w [name] [r] f'.visited ∧ (∃ visited, f' = { f with visited }) ∧
      ∃ input, w' = { w with input } := by
  rw [lintName] at h
  by_cases hname : name = stdinName
  · subst hname
    rw [if_pos rfl, Prod.mk.injEq, Prod.mk.injEq] at h
    obtain ⟨rfl, rfl, hresult⟩ := h
    exact ⟨⟨.cons (reportOf_of_lintSource hresult) .nil, by simp, by simp⟩, ⟨_, rfl⟩, _, rfl⟩
  · rw [if_neg hname] at h
    obtain ⟨e, -, hcall⟩ | ⟨path, hpath, ⟨-, hcall⟩ | ⟨hnew, hcall⟩⟩ := f.lintFile_cases w name
    · rw [hcall] at h
      cases h
    · rw [hcall] at h
      cases h
    · rw [hcall, Prod.mk.injEq, Prod.mk.injEq] at h
      obtain ⟨rfl, rfl, hresult⟩ := h
      refine ⟨⟨.cons (reportOf_of_lintAt hpath hresult) .nil, fun path' ↦ ?_, ?_⟩, ⟨_, rfl⟩, _, rfl⟩
      · simp [hname, hpath, or_comm, eq_comm]
      · simp only [List.mem_singleton, forall_eq, hpath, ne_eq, Except.ok.injEq]
        rintro - path' hmem rfl
        exact hnew hmem

/-- **A duplicate has been visited before.** -/
theorem exists_of_isDuplicate {e : FileError} (h : (f.lintName w name).2.2 = .error e)
    (hduplicate : e.isDuplicate = true) :
    name ≠ stdinName ∧ ∃ path ∈ f.visited, f.options.resolve w name = .ok path := by
  rw [lintName] at h
  by_cases hname : name = stdinName
  · subst hname
    rw [if_pos rfl, lintSource, lintSourceTraced] at h
    split at h <;> cases h
    cases hduplicate
  · refine ⟨hname, ?_⟩
    rw [if_neg hname] at h
    obtain ⟨e', -, hcall⟩ | ⟨path, hpath, ⟨hmem, -⟩ | ⟨-, hcall⟩⟩ := f.lintFile_cases w name
    · rw [hcall] at h
      cases h
      cases hduplicate
    · exact ⟨path, hmem, hpath⟩
    · rw [hcall] at h
      rcases hat : f.lintAt w name path with e' | result
      · rw [hat] at h
        cases h
        rw [isDuplicate_eq_false_of_lintAt hat] at hduplicate
        cases hduplicate
      · rw [hat] at h
        cases h

/-! ### Names one after the other -/

theorem Completed.cons {names : List Text} {reports : List Report} {between final : List Text}
    {input : Source} (hfirst : f.Completed w [name] [r] between)
    (hrest : Completed { f with visited := between } { w with input } names reports final) :
    f.Completed w (name :: names) (r :: reports) final where
  forall₂_reportOf := by
    refine .cons (List.forall₂_cons.1 hfirst.forall₂_reportOf).1 ?_
    -- the visited paths and standard input have no part in reading a file
    exact hrest.forall₂_reportOf.imp fun _ _ h ↦ ⟨h.path_eq, h.diagnostics_eq⟩
  mem_final_iff path := by
    rw [hrest.mem_final_iff, hfirst.mem_final_iff]
    simp only [List.mem_singleton, exists_eq_left, List.exists_mem_cons_iff, or_assoc]
    rfl
  resolve_ne := by
    rw [List.forall_mem_cons]
    refine ⟨hfirst.resolve_ne name (List.mem_singleton_self name), fun n hn hne path hpath ↦ ?_⟩
    exact hrest.resolve_ne n hn hne path ((hfirst.mem_final_iff path).2 (Or.inl hpath))

/-- **Names that were all linted.** -/
theorem completed_lintNames {names : List Text} {reports : List Report}
    (h : (f.lintNames w names).2.2 = .ok reports) :
    f.Completed w names reports (f.lintNames w names).1.visited := by
  induction names generalizing f w reports with
  | nil =>
    cases h
    exact ⟨.nil, by simp [lintNames], by simp⟩
  | cons name names ih =>
    rw [lintNames] at h ⊢
    rcases hname : f.lintName w name with ⟨f', w', e | r⟩
    · rw [hname] at h
      cases h
    · rw [hname] at h
      obtain ⟨hfirst, ⟨visited, rfl⟩, input, rfl⟩ := completed_lintName hname
      rcases hrest : (lintNames { f with visited } { w with input } names).2.2 with e | rest
      · simp only [hrest] at h
        cases h
      · simp only [hrest] at h
        cases h
        exact hfirst.cons (ih hrest)

/-- **Names of different files that have not been visited** are not refused as duplicates. -/
theorem isDuplicate_eq_false_of_lintNames {names : List Text} {e : FileError}
    (hnames : names.Pairwise fun a b ↦ a ≠ stdinName → b ≠ stdinName →
      f.options.resolve w a ≠ f.options.resolve w b)
    (hvisited : ∀ name ∈ names, name ≠ stdinName → ∀ path ∈ f.visited,
      f.options.resolve w name ≠ .ok path)
    (h : (f.lintNames w names).2.2 = .error e) : e.isDuplicate = false := by
  induction names generalizing f w with
  | nil => cases h
  | cons name names ih =>
    rw [List.pairwise_cons] at hnames
    rw [List.forall_mem_cons] at hvisited
    rw [lintNames] at h
    rcases hname : f.lintName w name with ⟨f', w', e' | r⟩
    · rw [hname] at h
      cases h
      by_contra hduplicate
      have herror : (f.lintName w name).2.2 = .error e := by rw [hname]
      obtain ⟨hne, path, hmem, hpath⟩ := exists_of_isDuplicate herror (by simpa using hduplicate)
      exact hvisited.1 hne path hmem hpath
    · rw [hname] at h
      obtain ⟨hfirst, ⟨visited, rfl⟩, input, rfl⟩ := completed_lintName hname
      rcases hrest : (lintNames { f with visited } { w with input } names).2.2 with e' | rest
      · simp only [hrest] at h
        cases h
        refine ih (f := { f with visited }) (w := { w with input }) hnames.2
          (fun n hn hne path hpath heq ↦ ?_) hrest
        -- visited are the paths from before and that of the name just linted
        rcases (hfirst.mem_final_iff path).1 hpath with hold | ⟨n', hn', hne', hpath'⟩
        · exact hvisited.2 n hn hne path hold heq
        · rw [List.mem_singleton] at hn'
          subst hn'
          exact hnames.1 n hn hne' hne (hpath'.trans heq.symm)
      · simp only [hrest] at h
        cases h

/-! ### Arguments -/

/-- **A new file linter takes its own expansion.** It refuses none of the names as a duplicate; if it
gets to the end, there is one report for each name of the expansion, in order, under that name and with
the findings in the lines that `readLines` gives for it. From then on the files of these names are
visited: whenever that is so, an expansion with a name for one of them cannot be linted to the end. The
options, the linter of documents and the world may have changed in the meantime. -/
theorem lintPaths_new (hnew : f.visited = []) (w : World) (arguments : List Text) :
    (∀ e, (f.lintPaths w arguments).2.2 = .error e → e.isDuplicate = false) ∧
    ∀ reports, (f.lintPaths w arguments).2.2 = .ok reports →
      ∃ names, f.options.expand w arguments = .ok names ∧
        List.Forall₂ (f.ReportOf w) names reports ∧
        ∀ (f₂ : FileLinter) (w₂ : World) (arguments₂ names₂ : List Text),
          (f.lintPaths w arguments).1.visited ⊆ f₂.visited →
          f₂.options.expand w₂ arguments₂ = .ok names₂ →
          (∃ name ∈ names, ∃ name₂ ∈ names₂, name ≠ stdinName ∧ name₂ ≠ stdinName ∧
            f₂.options.resolve w₂ name₂ = f.options.resolve w name) →
          ∃ e, (f₂.lintPaths w₂ arguments₂).2.2 = .error e := by
  rw [lintPaths]
  rcases hexpand : f.options.expand w arguments with e | names
  · refine ⟨fun e' h ↦ ?_, fun reports h ↦ ?_⟩
    · cases h
      rfl
    · cases h
  refine ⟨fun e h ↦ ?_, fun reports h ↦ ?_⟩
  · exact isDuplicate_eq_false_of_lintNames (FileOptions.pairwise_resolve_expand hexpand)
      (by simp [hnew]) h
  have hcompleted := completed_lintNames h
  refine ⟨names, rfl, hcompleted.forall₂_reportOf, ?_⟩
  rintro f₂ w₂ arguments₂ names₂ hvisited hexpand₂ ⟨name, hname, name₂, hname₂, hne, hne₂, hsame⟩
  -- the name was read, so it has a path, and the path has been visited
  obtain ⟨r, hreport⟩ := exists_of_forall₂ hcompleted.forall₂_reportOf.flip hname
  obtain ⟨lines, hlines, -⟩ := hreport.diagnostics_eq hne
  obtain ⟨path, hpath⟩ := exists_resolve_of_readLines hlines
  have hmem : path ∈ f₂.visited :=
    hvisited ((hcompleted.mem_final_iff path).2 (Or.inr ⟨name, hname, hne, hpath⟩))
  rw [lintPaths, hexpand₂]
  rcases hresult : (f₂.lintNames w₂ names₂).2.2 with e | reports₂
  · exact ⟨e, rfl⟩
  · exact absurd (hsame.trans hpath) ((completed_lintNames hresult).resolve_ne name₂ hname₂ hne₂ path hmem)

/-- A directory with one file. -/
def oneBelow : World where
  files := ⟨[([Text.ofString "d"], .directory),
    ([Text.ofString "d", Text.ofString "b.yaml"], .file (Text.ofString "- x"))]⟩

/-- Standard input and the directory; then the file again, with the directory as the base directory. -/
theorem lintPaths_new_twice :
    (lintPaths {} oneBelow [Text.ofString "-", Text.ofString "d"]).2.2 =
        .ok [⟨Text.ofString "-", []⟩, ⟨Text.ofString "d/b.yaml", [.ofRule 1 .indentationNotEven,
          .ofRule 1 .orphanListItem]⟩] ∧
      ∃ e, (lintPaths
          { (lintPaths {} oneBelow [Text.ofString "-", Text.ofString "d"]).1 with
            options := { baseDir := Text.ofString "d" } }
          oneBelow [Text.ofString "./b.yaml"]).2.2 = .error e := by
  have hreports : (lintPaths {} oneBelow [Text.ofString "-", Text.ofString "d"]).2.2 =
      .ok [⟨Text.ofString "-", []⟩, ⟨Text.ofString "d/b.yaml", [.ofRule 1 .indentationNotEven,
        .ofRule 1 .orphanListItem]⟩] := by cbv
  obtain ⟨names, hexpand, -, hagain⟩ := (lintPaths_new rfl oneBelow
    [Text.ofString "-", Text.ofString "d"]).2 _ hreports
  have hnames : FileOptions.expand {} oneBelow [Text.ofString "-", Text.ofString "d"] =
      .ok [Text.ofString "-", Text.ofString "d/b.yaml"] := by cbv
  obtain rfl := Except.ok.inj (hnames.symm.trans hexpand)
  have hsecond : FileOptions.expand { baseDir := Text.ofString "d" } oneBelow
      [Text.ofString "./b.yaml"] = .ok [Text.ofString "./b.yaml"] := by cbv
  have hsame : FileOptions.resolve { baseDir := Text.ofString "d" } oneBelow (Text.ofString "./b.yaml") =
      FileOptions.resolve {} oneBelow (Text.ofString "d/b.yaml") := by cbv
  exact ⟨hreports, hagain _ _ _ _ (List.Subset.refl _) hsecond ⟨Text.ofString "d/b.yaml", by simp,
    Text.ofString "./b.yaml", by simp, by decide, by decide, hsame⟩⟩

end FileLinter

end StructuralLint
