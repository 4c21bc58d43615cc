import Mathlib
import StructuralLint.Command.Task
import StructuralLint.Proofs.Files.Expand

/-!
# Standard input among the names

A list of names selects standard input by the name `-`, and linting any other name leaves standard input
alone. So what matters is where a `-` in an expansion can come from. There are two ways:

* the argument `-`, which has a key of its own and is therefore kept once;
* a file called `-` in the base directory itself, found below a directory argument and named relative to
  the base directory. It has no extension, so it is found only if the empty extension is one of those
  looked for (`FindsInputName`).

Without the second way, only the argument `-` selects standard input (`only_argument_selects_input`). With
it, the file is listed under the name of standard input, and is not read (`found_file_selects_input`).

Nothing here asks for a well-formed file system, or for arguments that are no links: names come from the
walk as it is.
-/

namespace StructuralLint

/-! ### Names relative to the base directory -/

namespace Path

/-- The name of standard input is a name like any other. -/
theorem isName_stdinName : IsName stdinName := by
  decide

theorem ofText_of_isName {name : Text} (h : IsName name) : ofText name = ⟨false, [name]⟩ := by
  have hnormal : IsNormal ⟨false, [name]⟩ := (IsNormal.nil false).concat h
  have htext : text ⟨false, [name]⟩ = name := List.append_nil name
  rw [← ofText_text hnormal, htext]

theorem ofText_join_of_isName {name : Text} (h : IsName name) (base : Text) :
    ofText (join base name) = ⟨isAbsolute base, (ofText base).parts ++ [name]⟩ := by
  rw [ofText_join (isAbsolute_eq_false h.not_mem_slash), splitOn_eq_singleton h.not_mem_slash,
    List.foldl_cons, List.foldl_nil, push_of_isName h, List.reverse_cons, List.reverse_reverse]

theorem dropCommon_append (as bs : List Text) : dropCommon as (as ++ bs) = ([], bs) := by
  induction as with
  | nil => simp [dropCommon]
  | cons a as ih => rw [List.cons_append, dropCommon, if_pos rfl, ih]

/-- **What has a plain name relative to a base directory is right below it.** -/
theorem relative?_eq_some_iff {base path name : Text} (hname : IsName name) :
    relative? base path = some name ↔ ofText path = ofText (join base name) := by
  rw [ofText_join_of_isName hname, relative?]
  obtain ⟨common, hbase, hpath, -⟩ := exists_dropCommon (ofText base).parts (ofText path).parts
  rcases hdrop : dropCommon (ofText base).parts (ofText path).parts with ⟨above, below⟩
  rw [hdrop] at hbase hpath
  by_cases hroot : isAbsolute base = isAbsolute path
  · simp only [isRooted_ofText, hroot, ne_eq, not_true_eq_false, if_false,
      Option.ite_none_left_eq_some, Option.some.injEq]
    constructor
    · rintro ⟨-, htext⟩
      have hrest : IsNormal ⟨isAbsolute path, common ++ below⟩ := by
        rw [← hpath]
        exact isNormal_ofText path
      have hnormal : IsNormal ⟨false, above.map (fun _ ↦ up) ++ below⟩ :=
        .of_forall_up_append (by simp) hrest
      have hparts := congrArg ofText htext
      rw [ofText_text hnormal, ofText_of_isName hname, Path.mk.injEq] at hparts
      -- a way up would be the whole name
      have habove : above = [] := by
        rcases above with - | ⟨part, above⟩
        · rfl
        · exact absurd (List.cons.inj hparts.2).1.symm hname.ne_up
      subst habove
      have hbelow : below = [name] := hparts.2
      refine congrArg (Path.mk (isAbsolute path)) ?_
      rw [hbase, List.append_nil, ← hbelow]
      exact hpath
    · intro h
      have hparts : (ofText path).parts = (ofText base).parts ++ [name] := congrArg Path.parts h
      rw [hparts, dropCommon_append] at hdrop
      obtain ⟨rfl, rfl⟩ := Prod.mk.inj hdrop
      exact ⟨by simp, List.append_nil name⟩
  · have hne : ofText path ≠ ⟨isAbsolute base, (ofText base).parts ++ [name]⟩ :=
      fun h ↦ hroot (congrArg isRooted h).symm
    simp only [isRooted_ofText, ne_eq, hroot, not_false_eq_true, if_true, reduceCtorEq, hne]

/-- The extension of a clean path is that of its last name. -/
theorem extension_join_of_isName {name : Text} (h : IsName name) (base : Text) :
    extension (join base name) = extension name := by
  have hnormal := isNormal_ofText (join base name)
  rw [ofText_join_of_isName h] at hnormal
  have hlast : (Text.splitOn '/' (join base name)).getLast? = some name := by
    rw [join_eq_text (Or.inr h.ne_nil), ofText_join_of_isName h,
      splitOn_text hnormal (by simp), ← List.append_assoc, List.getLast?_concat]
  simp only [extension, hlast, splitOn_eq_singleton h.not_mem_slash, List.getLast?_singleton]

theorem isAbsolute_join {dir : Text} (h : dir ≠ []) (name : Text) :
    isAbsolute (join dir name) = isAbsolute dir := by
  have hempty : ¬ dir.isEmpty = true := by simpa using h
  rw [join, if_neg hempty, clean, isAbsolute_text (isNormal_ofText _), isRooted_ofText,
    isAbsolute_append h]

end Path

namespace World

variable {w : World} {path : Text} {paths : List Text}

/-- **What joining the names of children keeps holds of all that a walk lists**, if it holds where the walk
starts. -/
theorem forall_mem_walkFrom {P : Text → Prop}
    (hjoin : ∀ path l, P path → ∀ child ∈ w.files.children l, P (Path.join path child.1))
    {fuel : ℕ} {e : Entry} (hpath : P path) (h : w.walkFrom fuel path e = .ok paths) :
    ∀ q ∈ paths, P q := by
  induction fuel generalizing path e paths with
  | zero =>
    cases h
    simp
  | succ fuel ih =>
    cases e with
    | directory =>
      obtain ⟨entries, lists, hread, rfl, hlists⟩ := exists_of_walkFrom_directory h
      obtain ⟨l, -, rfl⟩ := exists_of_readDirectory hread
      intro q hq
      obtain ⟨list, hlist, hq⟩ := List.mem_flatten.1 hq
      obtain ⟨child, hchild, hwalk⟩ := exists_of_forall₂
        ((List.forall₂_and_left _ _).2 ⟨fun _ hchild ↦ hchild, hlists⟩) hlist
      exact ih (hjoin _ _ hpath child hchild) hwalk q hq
    | _ =>
      cases h
      simpa using hpath

theorem forall_mem_walk {P : Text → Prop}
    (hjoin : ∀ path l, P path → ∀ child ∈ w.files.children l, P (Path.join path child.1))
    (hpath : P path) (h : w.walk path = .ok paths) : ∀ q ∈ paths, P q := by
  obtain ⟨loc, e, -, hwalk⟩ := exists_of_walk h
  exact forall_mem_walkFrom hjoin hpath hwalk

/-- A walk lists clean paths when it starts at one. -/
theorem eq_text_of_mem_walk (hpath : path = (Path.ofText path).text) (h : w.walk path = .ok paths) :
    ∀ q ∈ paths, q = (Path.ofText q).text := by
  refine forall_mem_walk (fun path l hclean child _ ↦ Path.join_eq_text (Or.inl ?_)) hpath h
  exact hclean ▸ Path.text_ne_nil (Path.isNormal_ofText path)

/-- A walk lists absolute paths when it starts at one. -/
theorem isAbsolute_of_mem_walk (hpath : Path.isAbsolute path = true) (h : w.walk path = .ok paths) :
    ∀ q ∈ paths, Path.isAbsolute q = true := by
  refine forall_mem_walk (fun path l habsolute child _ ↦ ?_) hpath h
  rw [Path.isAbsolute_join (fun hnil ↦ by simp [hnil, Path.isAbsolute] at habsolute), habsolute]

end World

namespace FileOptions

variable {o : FileOptions} {w : World}

/-! ### Where a candidate comes from -/

theorem found_eq_ok_iff {argument path : Text} {c : Candidate} :
    o.found w argument path = .ok c ↔
      o.foundName argument path = .ok c.name ∧ o.resolve w c.name = .ok c.key := by
  obtain ⟨key, name⟩ := c
  rw [found]
  rcases o.foundName argument path with e | name'
  · simp [bind, Except.bind]
  · rcases hkey : o.resolve w name' with e | key'
    · simp only [bind, Except.bind, hkey, Except.mapError, reduceCtorEq, Except.ok.injEq, false_iff,
        not_and]
      rintro rfl
      simp [hkey]
    · simp only [bind, Except.bind, hkey, Except.mapError, pure, Except.pure, Except.ok.injEq,
        Candidate.mk.injEq]
      constructor
      · rintro ⟨rfl, rfl⟩
        exact ⟨rfl, hkey⟩
      · rintro ⟨rfl, h⟩
        exact ⟨Except.ok.inj (hkey.symm.trans h), rfl⟩

/-- What is found below a directory is what its walk lists, as far as it has an extension. -/
theorem foundBelow_eq_ok_iff {argument : Text} {cs : List Candidate} :
    o.foundBelow w argument = .ok cs ↔ ∃ paths, w.walk (o.join argument) = .ok paths ∧
      List.Forall₂ (fun path c ↦ o.found w argument path = .ok c) (paths.filter o.hasExtension) cs := by
  rw [foundBelow]
  rcases w.walk (o.join argument) with e | paths
  · simp [bind, Except.bind, Except.mapError]
  · simp [bind, Except.bind, Except.mapError, mapM_eq_ok_iff]

/-- **What an argument is taken for**: standard input, a file, or a directory that is walked. -/
theorem candidates_eq_ok_iff {argument : Text} {cs : List Candidate} :
    o.candidates w argument = .ok cs ↔
      (argument = stdinName ∧ cs = [⟨stdinName, stdinName⟩]) ∨
      (argument ≠ stdinName ∧ w.isDirectory (o.join argument) = .ok false ∧
        ∃ key, o.resolve w argument = .ok key ∧ cs = [⟨key, argument⟩]) ∨
      (argument ≠ stdinName ∧ w.isDirectory (o.join argument) = .ok true ∧
        o.foundBelow w argument = .ok cs) := by
  rw [candidates]
  by_cases hstdin : argument = stdinName
  · simp [hstdin, eq_comm]
  rw [if_neg hstdin]
  rcases w.isDirectory (o.join argument) with e | - | -
  · simp [hstdin]
  · rcases o.resolve w argument with e | key <;> simp [hstdin, eq_comm]
  · rcases o.foundBelow w argument with e | found <;> simp [hstdin, Except.mapError]

/-- Only standard input has its key; every other name resolves to its own. -/
theorem eq_or_resolve_of_mem_candidates {argument : Text} {cs : List Candidate}
    (h : o.candidates w argument = .ok cs) {c : Candidate} (hc : c ∈ cs) :
    (argument = stdinName ∧ c = ⟨stdinName, stdinName⟩) ∨
      (argument ≠ stdinName ∧ o.resolve w c.name = .ok c.key) := by
  obtain ⟨rfl, rfl⟩ | ⟨hne, -, key, hkey, rfl⟩ | ⟨hne, -, hfound⟩ := candidates_eq_ok_iff.1 h
  · exact Or.inl ⟨rfl, List.mem_singleton.1 hc⟩
  · rw [List.mem_singleton.1 hc]
    exact Or.inr ⟨hne, hkey⟩
  · obtain ⟨paths, -, hall⟩ := foundBelow_eq_ok_iff.1 hfound
    obtain ⟨path, hpath⟩ := exists_of_forall₂ hall hc
    exact Or.inr ⟨hne, (found_eq_ok_iff.1 hpath).2⟩

/-- **What an expansion keeps**: of all candidates, one for each key. -/
theorem exists_kept_of_expand {arguments names : List Text} (h : o.expand w arguments = .ok names) :
    ∃ kept : List Candidate, names = kept.map (·.name) ∧ (kept.map (·.key)).Nodup ∧
      (∀ c ∈ kept, ∃ a ∈ arguments, ∃ cs, o.candidates w a = .ok cs ∧ c ∈ cs) ∧
      ∀ a ∈ arguments, ∃ cs, o.candidates w a = .ok cs ∧ ∀ c ∈ cs, ∃ d ∈ kept, d.key = c.key := by
  rw [expand] at h
  rcases hall : arguments.mapM (o.candidates w) with e | lists
  · rw [hall] at h
    cases h
  rw [hall] at h
  have hlists := mapM_eq_ok_iff.1 hall
  obtain ⟨hnodup, hmem⟩ := nodup_firstOfEachKey [] lists.flatten
  refine ⟨firstOfEachKey [] lists.flatten, (Except.ok.inj h).symm, hnodup, fun c hc ↦ ?_, fun a ha ↦ ?_⟩
  · obtain ⟨cs, hcs, hc⟩ := List.mem_flatten.1 (hmem c hc).1
    obtain ⟨a, ha, hcandidates⟩ := exists_of_forall₂
      ((List.forall₂_and_left _ _).2 ⟨fun _ ha ↦ ha, hlists⟩) hcs
    exact ⟨a, ha, cs, hcandidates, hc⟩
  · obtain ⟨cs, hcs, hcandidates⟩ := exists_of_forall₂
      ((List.forall₂_and_left _ _).2 ⟨fun _ hcs ↦ hcs, hlists.flip⟩) ha
    refine ⟨cs, hcandidates, fun c hc ↦ ?_⟩
    exact (exists_mem_firstOfEachKey (List.mem_flatten.2 ⟨cs, hcs, hc⟩) []).resolve_left
      List.not_mem_nil

/-- **An expansion lists no file twice.** -/
theorem pairwise_resolve_expand {arguments names : List Text} (h : o.expand w arguments = .ok names) :
    names.Pairwise fun a b ↦ a ≠ stdinName → b ≠ stdinName → o.resolve w a ≠ o.resolve w b := by
  obtain ⟨kept, rfl, hnodup, hfrom, -⟩ := exists_kept_of_expand h
  have hresolve : ∀ c ∈ kept, c.name ≠ stdinName → o.resolve w c.name = .ok c.key := by
    intro c hc hne
    obtain ⟨a, -, cs, hcs, hc⟩ := hfrom c hc
    obtain ⟨-, rfl⟩ | ⟨-, hkey⟩ := eq_or_resolve_of_mem_candidates hcs hc
    · exact absurd rfl hne
    · exact hkey
  refine List.pairwise_map.2 ((List.pairwise_map.1 hnodup).imp_of_mem ?_)
  intro c d hc hd hkey hcname hdname heq
  rw [hresolve c hc hcname, hresolve d hd hdname] at heq
  exact hkey (Except.ok.inj heq)

/-! ### Files found under the name of standard input -/

/-- **A file is found under the name of standard input**: below a relative directory argument there is
a file called `-` right in the base directory, and the empty extension is looked for. -/
structure FindsInputName (o : FileOptions) (w : World) (argument : Text) : Prop where
  /-- The argument is not standard input itself. -/
  ne_stdinName : argument ≠ stdinName
  /-- What is found is named relative to the base directory. -/
  not_isAbsolute : Path.isAbsolute argument = false
  /-- The argument is a directory. -/
  isDirectory : w.isDirectory (o.join argument) = .ok true
  /-- A file without an extension is looked for. -/
  extension : [] ∈ o.extensions
  /-- The file is listed. -/
  listed : ∃ paths, w.walk (o.join argument) = .ok paths ∧ Path.join o.baseDir stdinName ∈ paths

theorem hasExtension_join_stdinName (o : FileOptions) :
    o.hasExtension (Path.join o.baseDir stdinName) = true ↔ [] ∈ o.extensions := by
  have hextension : Path.extension stdinName = [] := by decide
  rw [hasExtension_eq, decide_eq_true_iff, Path.extension_join_of_isName Path.isName_stdinName,
    hextension]
  constructor
  · rintro ⟨want, hwant, hlower⟩
    rwa [List.map_eq_nil_iff.1 hlower.symm] at hwant
  · exact fun h ↦ ⟨[], h, rfl⟩

/-- A file below a directory argument is found under the name of standard input exactly if the argument
is relative and the file is called `-` and stands in the base directory. -/
theorem foundName_eq_stdinName_iff {argument path : Text} {paths : List Text}
    (hdir : w.isDirectory (o.join argument) = .ok true)
    (hwalk : w.walk (o.join argument) = .ok paths) (hpath : path ∈ paths) :
    o.foundName argument path = .ok stdinName ↔
      Path.isAbsolute argument = false ∧ path = Path.join o.baseDir stdinName := by
  rw [foundName]
  by_cases hargument : Path.isAbsolute argument = true
  · have habsolute : Path.isAbsolute path = true := by
      rw [join_of_isAbsolute hargument] at hwalk
      exact World.isAbsolute_of_mem_walk hargument hwalk path hpath
    have hne : path ≠ stdinName := fun he ↦ by
      rw [he] at habsolute
      cases habsolute
    simp [hargument, hne]
  · have hclean := World.eq_text_of_mem_walk (join_eq_text hargument (World.ne_nil_of_isDirectory hdir)) hwalk path
      hpath
    have hjoin : Path.join o.baseDir stdinName = (Path.ofText (Path.join o.baseDir stdinName)).text :=
      Path.join_eq_text (Or.inr Path.isName_stdinName.ne_nil)
    have hrelative : Path.relative? o.baseDir path = some stdinName ↔
        path = Path.join o.baseDir stdinName := by
      rw [Path.relative?_eq_some_iff Path.isName_stdinName]
      refine ⟨fun h ↦ ?_, fun h ↦ by rw [h]⟩
      rw [hclean, h, ← hjoin]
    rw [if_neg hargument, ← hrelative]
    rcases Path.relative? o.baseDir path with - | name <;> simp [hargument]

/-- **Where a `-` can come from**, besides the argument. -/
theorem exists_stdinName_iff {argument : Text} {cs : List Candidate}
    (h : o.candidates w argument = .ok cs) (hne : argument ≠ stdinName) :
    (∃ c ∈ cs, c.name = stdinName) ↔ o.FindsInputName w argument := by
  obtain ⟨rfl, -⟩ | ⟨-, hfile, key, -, rfl⟩ | ⟨-, hdir, hfound⟩ := candidates_eq_ok_iff.1 h
  · exact absurd rfl hne
  · refine iff_of_false (by simpa using hne) fun hfinds ↦ ?_
    rw [hfinds.isDirectory] at hfile
    cases hfile
  · obtain ⟨paths, hwalk, hall⟩ := foundBelow_eq_ok_iff.1 hfound
    constructor
    · rintro ⟨c, hc, hname⟩
      obtain ⟨path, hpath, hcpath⟩ := exists_of_forall₂
        ((List.forall₂_and_left _ _).2 ⟨fun _ hpath ↦ hpath, hall⟩) hc
      obtain ⟨hpath, hextension⟩ := List.mem_filter.1 hpath
      have hcname := (found_eq_ok_iff.1 hcpath).1
      rw [hname] at hcname
      obtain ⟨hargument, rfl⟩ := (foundName_eq_stdinName_iff hdir hwalk hpath).1 hcname
      exact ⟨hne, hargument, hdir, (hasExtension_join_stdinName o).1 hextension, paths, hwalk, hpath⟩
    · rintro ⟨-, hargument, -, hextension, paths', hwalk', hpath⟩
      obtain rfl : paths = paths' := Except.ok.inj (hwalk.symm.trans hwalk')
      have hmem : Path.join o.baseDir stdinName ∈ paths.filter o.hasExtension :=
        List.mem_filter.2 ⟨hpath, (hasExtension_join_stdinName o).2 hextension⟩
      obtain ⟨c, hc, hcpath⟩ := exists_of_forall₂
        ((List.forall₂_and_left _ _).2 ⟨fun _ hc ↦ hc, hall.flip⟩) hmem
      have hcname := (found_eq_ok_iff.1 hcpath).1
      rw [(foundName_eq_stdinName_iff hdir hwalk hpath).2 ⟨hargument, rfl⟩] at hcname
      exact ⟨c, hc, (Except.ok.inj hcname).symm⟩

/-- **A `-` in an expansion** comes from the argument, or is a file found under this name. -/
theorem stdinName_mem_expand {arguments names : List Text} (h : o.expand w arguments = .ok names)
    (hmem : stdinName ∈ names) : stdinName ∈ arguments ∨ ∃ a ∈ arguments, o.FindsInputName w a := by
  obtain ⟨kept, rfl, -, hfrom, -⟩ := exists_kept_of_expand h
  obtain ⟨c, hc, hname⟩ := List.mem_map.1 hmem
  obtain ⟨a, ha, cs, hcs, hc⟩ := hfrom c hc
  by_cases hne : a = stdinName
  · exact Or.inl (hne ▸ ha)
  · exact Or.inr ⟨a, ha, (exists_stdinName_iff hcs hne).1 ⟨c, hc, hname⟩⟩

/-- **The empty extension is what it takes.** With it, and only with it, some expansion lists standard
input without being asked to. -/
theorem nil_mem_extensions_iff (extensions : List Text) :
    [] ∈ extensions ↔ ∃ baseDir w arguments names,
      expand ⟨extensions, baseDir⟩ w arguments = .ok names ∧ stdinName ∈ names ∧
        stdinName ∉ arguments := by
  constructor
  · intro hextension
    have hmatch : hasExtension ⟨extensions, Text.ofString "."⟩ stdinName = true :=
      (hasExtension_join_stdinName ⟨extensions, Text.ofString "."⟩).2 hextension
    have hfilter : [stdinName].filter (hasExtension ⟨extensions, Text.ofString "."⟩) = [stdinName] := by
      simp [hmatch]
    have hfound : foundBelow ⟨extensions, Text.ofString "."⟩
        { files := ⟨[([stdinName], .file [])]⟩ } (Text.ofString ".") =
          .ok [⟨Text.ofString "/-", stdinName⟩] := by
      refine foundBelow_eq_ok_iff.2 ⟨[stdinName], by cbv, ?_⟩
      rw [hfilter]
      exact .cons (by cbv) .nil
    have hcandidates := candidates_eq_ok_iff.2 (Or.inr (Or.inr ⟨by decide, by cbv, hfound⟩))
    refine ⟨Text.ofString ".", { files := ⟨[([stdinName], .file [])]⟩ }, [Text.ofString "."],
      [stdinName], ?_, by decide, by decide⟩
    rw [expand, mapM_eq_ok_iff.2 (.cons hcandidates .nil)]
    rfl
  · rintro ⟨baseDir, w, arguments, names, h, hmem, hargument⟩
    obtain ⟨a, -, hfinds⟩ := (stdinName_mem_expand h hmem).resolve_left hargument
    exact hfinds.extension

/-- Without a file found under its name, standard input is listed as often as it is asked for, and at
most once. -/
theorem count_stdinName_expand {arguments names : List Text} (h : o.expand w arguments = .ok names)
    (hfinds : ∀ a ∈ arguments, ¬ o.FindsInputName w a) :
    names.count stdinName = if stdinName ∈ arguments then 1 else 0 := by
  obtain ⟨kept, rfl, hnodup, hfrom, hall⟩ := exists_kept_of_expand h
  have hkey : ∀ c ∈ kept, c.name = stdinName ↔ c.key = stdinName := by
    intro c hc
    obtain ⟨a, ha, cs, hcs, hc⟩ := hfrom c hc
    obtain ⟨-, rfl⟩ | ⟨hne, hresolve⟩ := eq_or_resolve_of_mem_candidates hcs hc
    · rfl
    · refine iff_of_false (fun hname ↦ ?_) (ne_stdinName_of_resolve hresolve)
      exact hfinds a ha ((exists_stdinName_iff hcs hne).1 ⟨c, hc, hname⟩)
  have hcount : (kept.map (·.name)).count stdinName = (kept.map (·.key)).count stdinName := by
    simp only [List.count, List.countP_map]
    exact List.countP_congr fun c hc ↦ by simpa using hkey c hc
  have hmem : stdinName ∈ kept.map (·.key) ↔ stdinName ∈ arguments := by
    constructor
    · intro hmem
      obtain ⟨c, hc, hname⟩ := List.mem_map.1 hmem
      refine (stdinName_mem_expand h ?_).resolve_right fun ⟨a, ha, hfind⟩ ↦ hfinds a ha hfind
      exact List.mem_map.2 ⟨c, hc, (hkey c hc).2 hname⟩
    · intro hmem
      obtain ⟨cs, hcs, hcovered⟩ := hall _ hmem
      obtain ⟨-, rfl⟩ | ⟨hne, -⟩ | ⟨hne, -⟩ := candidates_eq_ok_iff.1 hcs
      · obtain ⟨d, hd, hdkey⟩ := hcovered _ (List.mem_singleton_self _)
        exact List.mem_map.2 ⟨d, hd, hdkey⟩
      · exact absurd rfl hne
      · exact absurd rfl hne
  rw [hcount, hnodup.count]
  exact if_congr hmem rfl rfl

end FileOptions

/-! ### Names that leave standard input alone -/

namespace FileLinter

variable (f : FileLinter) (w : World)

/-- **Linting a name leaves standard input alone**, one name after the other or as a task: it does not
matter what is there, and it is there afterwards. -/
structure LeavesInput (name : Text) : Prop where
  /-- One name after the other. -/
  lintName_eq : ∀ input, f.lintName { w with input } name =
    ((f.lintName w name).1, { w with input }, (f.lintName w name).2.2)
  /-- As a task. -/
  doTask_eq : ∀ input position, f.doTask { w with input } ⟨position, name⟩ =
    ({ w with input }, (f.doTask w ⟨position, name⟩).2)

theorem leavesInput_of_ne {name : Text} (h : name ≠ stdinName) : f.LeavesInput w name := by
  constructor
  · intro input
    rw [lintName, if_neg h, lintName, if_neg h]
    rfl
  · intro input position
    rw [doTask, if_neg h, doTask, if_neg h]
    rfl

/-- A task other than standard input lints the file at its path. -/
theorem result_doTask_of_resolve {name path : Text} (h : name ≠ stdinName)
    (hpath : f.options.resolve w name = .ok path) (hvisited : path ∉ f.visited) (position : ℕ) :
    (f.doTask w ⟨position, name⟩).2.result = f.lintAt w name path := by
  rw [doTask, if_neg h]
  simp [lintFileTraced, hpath, hvisited]

/-- A name other than standard input is linted as its task is. -/
theorem result_lintName_eq (name : Text) (position : ℕ) :
    (f.lintName w name).2.2 = (f.doTask w ⟨position, name⟩).2.result.map (·.1) := by
  rw [lintName, doTask]
  split <;> rfl

end FileLinter

namespace FileOptions

variable {o : FileOptions} {w : World}

/-- **Only the argument `-` selects standard input**, if no file is found under its name. Then it is
listed when it is asked for, and at most once; every other name leaves it alone, whether the names are
linted one after the other or as tasks; and every file found below a directory is read from its path.

A file can be found under its name only if the empty extension is looked for; and whenever that is,
there are files and arguments for which it is listed without being asked for. -/
theorem only_argument_selects_input (l : Linter) {arguments names : List Text}
    (h : o.expand w arguments = .ok names) (hfinds : ∀ a ∈ arguments, ¬ o.FindsInputName w a) :
    names.count stdinName = (if stdinName ∈ arguments then 1 else 0) ∧
    (∀ name ∈ names, name ≠ stdinName → FileLinter.LeavesInput ⟨o, l, []⟩ w name) ∧
    (∀ a ∈ arguments, a ≠ stdinName → w.isDirectory (o.join a) = .ok true →
      ∀ cs, o.candidates w a = .ok cs → ∀ c ∈ cs,
        FileLinter.LeavesInput ⟨o, l, []⟩ w c.name ∧
        (FileLinter.lintName ⟨o, l, []⟩ w c.name).2.2 =
          (FileLinter.lintAt ⟨o, l, []⟩ w c.name c.key).map (·.1) ∧
        ∀ position, (FileLinter.doTask ⟨o, l, []⟩ w ⟨position, c.name⟩).2.result =
          FileLinter.lintAt ⟨o, l, []⟩ w c.name c.key) ∧
    ([] ∈ o.extensions ↔ ∃ baseDir w' arguments' names',
      expand ⟨o.extensions, baseDir⟩ w' arguments' = .ok names' ∧ stdinName ∈ names' ∧
        stdinName ∉ arguments') := by
  refine ⟨count_stdinName_expand h hfinds, fun name _ hne ↦ FileLinter.leavesInput_of_ne _ w hne, ?_,
    nil_mem_extensions_iff o.extensions⟩
  intro a ha hne _ cs hcs c hc
  have hname : c.name ≠ stdinName := fun hname ↦
    hfinds a ha ((exists_stdinName_iff hcs hne).1 ⟨c, hc, hname⟩)
  obtain ⟨hinput, -⟩ | ⟨-, hresolve⟩ := eq_or_resolve_of_mem_candidates hcs hc
  · exact absurd hinput hne
  · have htask := FileLinter.result_doTask_of_resolve ⟨o, l, []⟩ w hname hresolve List.not_mem_nil
    refine ⟨FileLinter.leavesInput_of_ne _ w hname, ?_, htask⟩
    rw [FileLinter.result_lintName_eq _ w c.name 0, htask]

/-- A directory with a file called `-` that is indented with a tab. -/
def inputNamed : World where
  files := ⟨[([Text.ofString "-"], .file (Text.ofString "\tx")), ([Text.ofString "a.yaml"], .file [])]⟩

/-- The file is not looked for, so that only the argument selects standard input. -/
theorem only_argument_selects_input_default :
    expand {} inputNamed [Text.ofString "-", Text.ofString ".", Text.ofString "-"] =
      .ok [Text.ofString "-", Text.ofString "a.yaml"] ∧
    [Text.ofString "-", Text.ofString "a.yaml"].count stdinName = 1 := by
  have h : expand {} inputNamed [Text.ofString "-", Text.ofString ".", Text.ofString "-"] =
      .ok [Text.ofString "-", Text.ofString "a.yaml"] := by cbv
  have hextension : [] ∉ ({} : FileOptions).extensions := by decide
  exact ⟨h, (only_argument_selects_input {} h fun a _ hfind ↦ hextension hfind.extension).1⟩

/-- **A file takes the place of standard input.** Once files without an extension are looked for, the
file called `-` is listed under the name of standard input: without the argument, and a second time with
it. It is not read: standard input is linted in its place and has no finding. -/
theorem found_file_selects_input :
    expand { extensions := [[]] } inputNamed [Text.ofString "."] = .ok [stdinName] ∧
    expand { extensions := [[]] } inputNamed [stdinName, Text.ofString "."] =
      .ok [stdinName, stdinName] ∧
    (FileLinter.lintPaths ⟨{ extensions := [[]] }, {}, []⟩ inputNamed [Text.ofString "."]).2.2 =
      .ok [⟨stdinName, []⟩] ∧
    (FileLinter.lintFile ⟨{ extensions := [[]] }, {}, []⟩ inputNamed (Text.ofString "./-")).2.map
      Report.isFatal = .ok true := by
  refine ⟨?_, ?_, ?_, ?_⟩ <;> cbv

end FileOptions

end StructuralLint
