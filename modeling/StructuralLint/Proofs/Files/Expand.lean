import Mathlib
import StructuralLint.Files.Expand
import StructuralLint.Proofs.Files.Tree

/-!
# The files that arguments stand for

What one argument stands for is described without a walk (`Stands`): standard input, a file as it is
given, or the files below a directory with one of the extensions, listed as `FileSystem.Lists` says. An
argument stands for one list (`Stands.unique`), so this fixes the answer. Expansion concatenates these
lists and keeps the first of each key (`expand_eq_firsts`); no key is left out and none occurs twice.

An expansion fails for one reason only, that some argument cannot be looked up or walked (`refusal?`).
What could go wrong besides does not: a file found below a directory has a name relative to the base
directory (`exists_found`), and where something was found there is a place to start from, so its name
has an absolute path.
-/

namespace StructuralLint

/-! ### Absolute paths -/

namespace World

variable {w : World} {path : Text}

/-- Whatever the working directory is called, that is an absolute path. -/
theorem isAbsolute_of_workingDirectoryName? {name : Text} (h : w.workingDirectoryName? = some name) :
    Path.isAbsolute name = true := by
  obtain ⟨dir, -, rfl⟩ := Option.map_eq_some_iff.1 h
  rcases hvalue : (w.getVariable? "PWD").filter (w.isNameOf dir) with - | value
  · rfl
  · have hname := (Option.filter_eq_some_iff.1 hvalue).2
    rw [isNameOf, Bool.and_eq_true] at hname
    exact hname.1

/-- A path has an absolute form when there is a place to start from. -/
theorem exists_absolute {start : Location} (h : w.start? (Path.isAbsolute path) = some start) :
    ∃ key, w.absolute path = .ok key := by
  rw [absolute]
  by_cases hpath : Path.isAbsolute path = true
  · exact ⟨_, if_pos hpath⟩
  · rw [if_neg hpath, workingDirectoryName?]
    rw [start?, if_neg hpath] at h
    exact ⟨_, by rw [h, Option.map_some]⟩

theorem isAbsolute_of_absolute {key : Text} (h : w.absolute path = .ok key) :
    Path.isAbsolute key = true := by
  rw [absolute] at h
  split at h
  · next hpath =>
    rw [← Except.ok.inj h, Path.clean, Path.isAbsolute_text (Path.isNormal_ofText path),
      Path.isRooted_ofText, hpath]
  · next hpath =>
    split at h
    · next dir hdir =>
      have hroot := isAbsolute_of_workingDirectoryName? hdir
      have hdirText : dir ≠ [] := by
        rintro rfl
        cases hroot
      rw [← Except.ok.inj h, Path.join_eq_text (Or.inl hdirText),
        Path.isAbsolute_text (Path.isNormal_ofText _), Path.ofText_join (by simpa using hpath)]
      exact hroot
    · cases h

/-- Where something that is no directory was found, there was a place to start from. -/
theorem exists_start_of_isDirectory_eq_false (h : w.isDirectory path = .ok false) :
    ∃ start, w.start? (Path.isAbsolute path) = some start := by
  rw [isDirectory] at h
  rcases hlook : w.lookUp "stat" true path with e | ⟨- | l, e⟩
  · rw [hlook] at h
    cases h
  · rw [hlook, eq_directory_of_lookUp_none hlook] at h
    cases h
  · obtain ⟨-, start, hstart, -⟩ := find_eq_ok_some_iff.1 (lookUp_eq_ok_some_iff.1 hlook).1
    exact ⟨start, hstart⟩

/-- There is nothing at the empty path. -/
theorem ne_nil_of_isDirectory {b : Bool} (h : w.isDirectory path = .ok b) : path ≠ [] := by
  rintro rfl
  cases h

end World

namespace FileOptions

variable {o : FileOptions} {w : World}

/-- A name resolves to the absolute form of the path it is a name for. -/
theorem resolve_eq_ok_iff {name key : Text} :
    o.resolve w name = .ok key ↔ w.absolute (o.join name) = .ok key := by
  rw [resolve]
  rcases w.absolute (o.join name) with e | key' <;> simp [Except.mapError]

theorem exists_resolve {name : Text} {start : Location}
    (h : w.start? (Path.isAbsolute (o.join name)) = some start) :
    ∃ key, o.resolve w name = .ok key := by
  obtain ⟨key, hkey⟩ := World.exists_absolute h
  exact ⟨key, resolve_eq_ok_iff.2 hkey⟩

theorem ne_stdinName_of_resolve {name key : Text} (h : o.resolve w name = .ok key) :
    key ≠ stdinName := by
  rintro rfl
  have hroot := World.isAbsolute_of_absolute (resolve_eq_ok_iff.1 h)
  cases hroot

/-! ### What an argument stands for -/

/-- **A file found at a path below a directory argument**: its name is the path, or relative to the
base directory when the argument is relative. Either way it is a name for the path, and the key is what
it resolves to. -/
structure Found (o : FileOptions) (w : World) (argument path : Text) (c : Candidate) : Prop where
  /-- How the file is named. -/
  name_eq : if Path.isAbsolute argument then c.name = path
    else Path.relative? o.baseDir path = some c.name
  /-- The name is a name for the path. -/
  join_name : o.join c.name = path
  /-- The key is the absolute path. -/
  resolve_name : o.resolve w c.name = .ok c.key

/-- **What an argument stands for.** -/
inductive Stands (o : FileOptions) (w : World) : Text → List Candidate → Prop
  /-- `-` stands for standard input, which is a key of its own. -/
  | input : Stands o w stdinName [⟨stdinName, stdinName⟩]
  /-- What is there and is no directory stands for itself, whatever its extension. -/
  | file {argument key : Text} : argument ≠ stdinName → w.isDirectory (o.join argument) = .ok false →
      o.resolve w argument = .ok key → Stands o w argument [⟨key, argument⟩]
  /-- A directory stands for the files below it with one of the extensions, in order. -/
  | directory {argument : Text} {l : Location} {names : List Location} {cs : List Candidate} :
      argument ≠ stdinName → w.lookUp "stat" true (o.join argument) = .ok (some l, .directory) →
      w.files.Lists l names →
      List.Forall₂ (o.Found w argument)
        ((names.map (Path.below (o.join argument))).filter fun path ↦
          ∃ want ∈ o.extensions, (Path.extension path).lower = want.lower) cs →
      Stands o w argument cs

/-- The key is the absolute form of the path. -/
theorem Found.absolute_eq {argument path : Text} {c : Candidate} (h : o.Found w argument path c) :
    w.absolute path = .ok c.key := by
  rw [← h.join_name]
  exact resolve_eq_ok_iff.1 h.resolve_name

theorem Found.unique {argument path : Text} {c d : Candidate} (hc : o.Found w argument path c)
    (hd : o.Found w argument path d) : c = d := by
  have hname : c.name = d.name := by
    have hc' := hc.name_eq
    have hd' := hd.name_eq
    split at hc'
    · next hargument =>
      rw [if_pos hargument] at hd'
      rw [hc', hd']
    · next hargument =>
      rw [if_neg hargument] at hd'
      exact Option.some.inj (hc'.symm.trans hd')
  have hkey := hc.resolve_name
  rw [hname, hd.resolve_name, Except.ok.injEq] at hkey
  exact congrArg₂ Candidate.mk hkey.symm hname

/-- **An argument stands for one list.** -/
theorem Stands.unique {argument : Text} {cs ds : List Candidate} (hcs : o.Stands w argument cs)
    (hds : o.Stands w argument ds) : cs = ds := by
  cases hcs with
  | input =>
    cases hds with
    | input => rfl
    | file hne => exact absurd rfl hne
    | directory hne => exact absurd rfl hne
  | file hne hfile hkey =>
    cases hds with
    | input => exact absurd rfl hne
    | file _ _ hkey' =>
      rw [hkey, Except.ok.injEq] at hkey'
      rw [hkey']
    | directory _ hstat =>
      rw [World.isDirectory_eq_true_iff.2 ⟨_, hstat⟩] at hfile
      cases hfile
  | directory hne hstat hlists hfound =>
    cases hds with
    | input => exact absurd rfl hne
    | file _ hfile =>
      rw [World.isDirectory_eq_true_iff.2 ⟨_, hstat⟩] at hfile
      cases hfile
    | directory _ hstat' hlists' hfound' =>
      rw [hstat, Except.ok.injEq, Prod.mk.injEq, Option.some.injEq] at hstat'
      obtain ⟨rfl, -⟩ := hstat'
      obtain rfl := hlists.unique hlists'
      have hunique : Relator.RightUnique (o.Found w argument) := fun _ _ _ ↦ Found.unique
      exact List.right_unique_forall₂' hunique hfound hfound'

/-- Why an argument is refused: it cannot be looked up, or it is a directory and cannot be walked. -/
def refusal? (o : FileOptions) (w : World) (argument : Text) : Option ExpandError :=
  if argument = stdinName then none
  else
    match w.isDirectory (o.join argument) with
    | .error e => some (.invalid (.refused e))
    | .ok false => none
    | .ok true =>
      match w.walk (o.join argument) with
      | .error e => some (.walk argument (.refused e))
      | .ok _ => none

/-! ### Files below a directory -/

theorem join_of_isAbsolute {name : Text} (h : Path.isAbsolute name = true) : o.join name = name :=
  if_pos h

theorem join_of_not_isAbsolute {name : Text} (h : ¬ Path.isAbsolute name = true) :
    o.join name = Path.join o.baseDir name :=
  if_neg h

/-- **What is found below a directory argument has a name**, and the name is one for the path. -/
theorem exists_foundName (o : FileOptions) (argument : Text) {n : Location}
    (hn : ∀ name ∈ n, Path.IsName name) :
    ∃ name, o.foundName argument (Path.below (o.join argument) n) = .ok name ∧
      (if Path.isAbsolute argument then name = Path.below (o.join argument) n
        else Path.relative? o.baseDir (Path.below (o.join argument) n) = some name) ∧
      o.join name = Path.below (o.join argument) n := by
  have hnormal := Path.isNormal_below (o.join argument) hn
  by_cases hargument : Path.isAbsolute argument = true
  · refine ⟨_, if_pos hargument, (if_pos hargument).mpr rfl, join_of_isAbsolute ?_⟩
    rw [Path.isAbsolute_below _ hn, join_of_isAbsolute hargument, hargument]
  · have hargument' : Path.isAbsolute argument = false := by simpa using hargument
    rw [join_of_not_isAbsolute hargument] at hnormal ⊢
    have hroot : Path.isAbsolute (Path.join o.baseDir argument) = Path.isAbsolute o.baseDir :=
      congrArg Path.isRooted (Path.ofText_join hargument' o.baseDir)
    -- joining keeps the `..` at the front of the base directory, so there is a way back
    obtain ⟨name, hrelative, hname, hback⟩ := Path.exists_relative?_join hnormal hroot fun U hU hbase ↦
      (Path.prefix_parts_join hU hbase hargument').trans (List.prefix_append _ _)
    refine ⟨name, ?_, (if_neg hargument).mpr hrelative, ?_⟩
    · simp only [foundName, if_neg hargument]
      rw [Path.below, hrelative]
    · rw [join_of_not_isAbsolute (by simp [hname]), hback]
      rfl

/-- **What is found below a directory argument is a candidate.** -/
theorem exists_found {argument : Text} {start : Location} {n : Location}
    (hstart : w.start? (Path.isAbsolute (o.join argument)) = some start)
    (hn : ∀ name ∈ n, Path.IsName name) :
    ∃ c, o.found w argument (Path.below (o.join argument) n) = .ok c ∧
      o.Found w argument (Path.below (o.join argument) n) c := by
  obtain ⟨name, hfound, hname, hjoin⟩ := o.exists_foundName argument hn
  have hstart' : w.start? (Path.isAbsolute (o.join name)) = some start := by
    rw [hjoin, Path.isAbsolute_below _ hn, hstart]
  obtain ⟨key, hkey⟩ := exists_resolve hstart'
  refine ⟨⟨key, name⟩, ?_, hname, hjoin, hkey⟩
  simp only [found, hfound, bind, Except.bind, hkey]
  rfl

theorem hasExtension_eq (o : FileOptions) : o.hasExtension = fun path ↦
    decide (∃ want ∈ o.extensions, (Path.extension path).lower = want.lower) := by
  funext path
  rw [Bool.eq_iff_iff]
  simp [hasExtension]

/-- An argument stands for a clean path, unless it is absolute or there is nothing to clean. -/
theorem join_eq_text {argument : Text} (h : ¬ Path.isAbsolute argument = true)
    (hne : o.join argument ≠ []) : o.join argument = (Path.ofText (o.join argument)).text := by
  rw [join_of_not_isAbsolute h] at hne ⊢
  refine Path.join_eq_text ?_
  by_contra hempty
  rw [not_or, not_not, not_not] at hempty
  rw [hempty.1, hempty.2] at hne
  exact hne rfl

/-- **A directory argument is found where its normal form leads**, unless it is absolute and goes up. -/
theorem leadsTo_join {argument : Text} {l : Location}
    (hup : Path.isAbsolute argument → Path.up ∉ Text.splitOn '/' argument)
    (hdir : w.isDirectory (o.join argument) = .ok true)
    (hfind : w.find true (o.join argument) = .ok (some l)) :
    w.LeadsTo (Path.ofText (o.join argument)) l := by
  refine World.leadsTo_ofText hfind ?_
  -- an absolute argument is looked up as it is, any other one after cleaning
  by_cases hargument : Path.isAbsolute argument = true
  · rw [join_of_isAbsolute hargument]
    exact Or.inr (hup hargument)
  · exact Or.inl (join_eq_text hargument (World.ne_nil_of_isDirectory hdir))

/-- **A directory that can be walked stands for what is found below it.** -/
theorem exists_foundBelow {argument : Text} {paths : List Text} (hfiles : w.files.WellFormed)
    (hlink : ¬ w.IsLinkToDirectory (o.join argument))
    (hleads : ∀ m, w.find true (o.join argument) = .ok (some m) →
      w.LeadsTo (Path.ofText (o.join argument)) m)
    (hstdin : argument ≠ stdinName) (hdir : w.isDirectory (o.join argument) = .ok true)
    (hwalk : w.walk (o.join argument) = .ok paths) :
    ∃ cs, o.foundBelow w argument = .ok cs ∧ o.Stands w argument cs := by
  obtain ⟨l, names, hstat, hlists, rfl⟩ := World.exists_lists_of_walk hfiles hdir hlink hleads hwalk
  obtain ⟨-, start, hstart, -⟩ :=
    World.find_eq_ok_some_iff.1 (World.lookUp_eq_ok_some_iff.1 hstat).1
  have hfound : ∀ path ∈ (names.map (Path.below (o.join argument))).filter o.hasExtension,
      ∃ c, o.found w argument path = .ok c ∧ o.Found w argument path c := by
    intro path hpath
    obtain ⟨n, hn, rfl⟩ := List.mem_map.1 (List.mem_of_mem_filter hpath)
    obtain ⟨e, he, -⟩ := (hlists.mem_iff n).1 hn
    exact exists_found hstart (hfiles.isName_of_get?_append he)
  obtain ⟨cs, hcs, hall⟩ := exists_mapM_eq_ok hfound
  rw [hasExtension_eq] at hall
  refine ⟨cs, ?_, .directory hstdin hstat hlists hall⟩
  rw [foundBelow, hwalk]
  exact hcs

/-- **What becomes of an argument**: it is refused, or it stands for something. -/
theorem candidates_cases {argument : Text} (hfiles : w.files.WellFormed)
    (hlink : ¬ w.IsLinkToDirectory (o.join argument))
    (hup : Path.isAbsolute argument → Path.up ∉ Text.splitOn '/' argument) :
    (∃ e, o.refusal? w argument = some e ∧ o.candidates w argument = .error e) ∨
      (o.refusal? w argument = none ∧ ∃ cs, o.candidates w argument = .ok cs ∧
        o.Stands w argument cs) := by
  rw [refusal?, candidates]
  by_cases hstdin : argument = stdinName
  · subst hstdin
    exact Or.inr ⟨if_pos rfl, _, if_pos rfl, .input⟩
  rw [if_neg hstdin, if_neg hstdin]
  rcases hdir : w.isDirectory (o.join argument) with e | - | -
  · exact Or.inl ⟨_, rfl, rfl⟩
  · obtain ⟨start, hstart⟩ := World.exists_start_of_isDirectory_eq_false hdir
    obtain ⟨key, hkey⟩ := exists_resolve hstart
    refine Or.inr ⟨rfl, [⟨key, argument⟩], ?_, .file hstdin hdir hkey⟩
    simp only [hkey]
  · rcases hwalk : w.walk (o.join argument) with e | paths
    · refine Or.inl ⟨_, rfl, ?_⟩
      simp only [foundBelow, hwalk]
      rfl
    · obtain ⟨cs, hcs, hstands⟩ := exists_foundBelow hfiles hlink (fun _ ↦ leadsTo_join hup hdir) hstdin
        hdir hwalk
      refine Or.inr ⟨rfl, cs, ?_, hstands⟩
      simp only [hcs]
      rfl

/-! ### The first of each key -/

/-- Keeping the first of each key that is not among those seen is removing duplicates. -/
theorem firstOfEachKey_eq (seen : List Text) (cs : List Candidate) :
    firstOfEachKey seen cs =
      (cs.filter fun c ↦ !seen.contains c.key).eraseDupsBy fun c d ↦ c.key == d.key := by
  induction cs generalizing seen with
  | nil => rfl
  | cons c cs ih =>
    rw [firstOfEachKey, List.filter_cons]
    by_cases hseen : seen.contains c.key = true
    · rw [if_pos hseen, ih, if_neg (by simp only [hseen, Bool.not_true, Bool.false_eq_true,
        not_false_eq_true])]
    · have hkeep : (!seen.contains c.key) = true := by simpa using hseen
      rw [if_neg hseen, ih, if_pos hkeep, List.eraseDupsBy_cons, List.filter_filter]
      -- the keys seen are those filtered out of the rest
      refine congrArg (fun l ↦ c :: List.eraseDupsBy _ l) (List.filter_congr fun d _ ↦ ?_)
      rw [List.contains_cons, Bool.not_or, Bool.decide_eq_false]

/-- **No key occurs twice**, and what is kept was there and had not been seen. -/
theorem nodup_firstOfEachKey (seen : List Text) (cs : List Candidate) :
    ((firstOfEachKey seen cs).map (·.key)).Nodup ∧
      ∀ c ∈ firstOfEachKey seen cs, c ∈ cs ∧ c.key ∉ seen := by
  induction cs generalizing seen with
  | nil => exact ⟨.nil, by simp [firstOfEachKey]⟩
  | cons c cs ih =>
    rw [firstOfEachKey]
    split
    · obtain ⟨hnodup, hmem⟩ := ih seen
      exact ⟨hnodup, fun d hd ↦ ⟨List.mem_cons_of_mem c (hmem d hd).1, (hmem d hd).2⟩⟩
    · next hseen =>
      obtain ⟨hnodup, hmem⟩ := ih (c.key :: seen)
      have hnew : ∀ d ∈ firstOfEachKey (c.key :: seen) cs, d.key ≠ c.key ∧ d.key ∉ seen := by
        intro d hd
        simpa using (hmem d hd).2
      constructor
      · rw [List.map_cons, List.nodup_cons]
        refine ⟨fun hkey ↦ ?_, hnodup⟩
        obtain ⟨d, hd, hkey⟩ := List.mem_map.1 hkey
        exact (hnew d hd).1 hkey
      · intro d hd
        rcases List.mem_cons.1 hd with rfl | hd
        · exact ⟨List.mem_cons_self, by simpa using hseen⟩
        · exact ⟨List.mem_cons_of_mem c (hmem d hd).1, (hnew d hd).2⟩

/-- **No key is left out.** -/
theorem exists_mem_firstOfEachKey {cs : List Candidate} {c : Candidate} (hc : c ∈ cs)
    (seen : List Text) : c.key ∈ seen ∨ ∃ d ∈ firstOfEachKey seen cs, d.key = c.key := by
  induction cs generalizing seen with
  | nil => cases hc
  | cons d cs ih =>
    rw [firstOfEachKey]
    split
    · next hseen =>
      rcases List.mem_cons.1 hc with rfl | hc
      · exact Or.inl (by simpa using hseen)
      · exact ih hc seen
    · rcases List.mem_cons.1 hc with rfl | hc
      · exact Or.inr ⟨c, List.mem_cons_self, rfl⟩
      · rcases ih hc (d.key :: seen) with hkey | ⟨d', hd', hkey⟩
        · rcases List.mem_cons.1 hkey with hkey | hkey
          · exact Or.inr ⟨d, List.mem_cons_self, hkey.symm⟩
          · exact Or.inl hkey
        · exact Or.inr ⟨d', List.mem_cons_of_mem d hd', hkey⟩

/-! ### Expansion -/

/-- A name stands for standard input, or resolves to its key. -/
theorem Stands.resolve_name {argument : Text} {cs : List Candidate} (h : o.Stands w argument cs) :
    ∀ c ∈ cs, c = ⟨stdinName, stdinName⟩ ∨ o.resolve w c.name = .ok c.key := by
  cases h with
  | input => exact fun c hc ↦ Or.inl (List.mem_singleton.1 hc)
  | file _ _ hkey =>
    intro c hc
    rw [List.mem_singleton.1 hc]
    exact Or.inr hkey
  | directory _ _ _ hfound =>
    intro c hc
    obtain ⟨path, hpath⟩ := exists_of_forall₂ hfound hc
    exact Or.inr hpath.resolve_name

/-- **Arguments are expanded one by one**, and the first one that is refused fails all of them. -/
theorem mapM_candidates_cases {arguments : List Text} (hfiles : w.files.WellFormed)
    (hlink : ∀ a ∈ arguments, ¬ w.IsLinkToDirectory (o.join a))
    (hup : ∀ a ∈ arguments, Path.isAbsolute a → Path.up ∉ Text.splitOn '/' a) :
    (∃ e, arguments.findSome? (o.refusal? w) = some e ∧ arguments.mapM (o.candidates w) = .error e) ∨
      (arguments.findSome? (o.refusal? w) = none ∧ ∃ lists,
        arguments.mapM (o.candidates w) = .ok lists ∧ List.Forall₂ (o.Stands w) arguments lists) := by
  induction arguments with
  | nil => exact Or.inr ⟨rfl, [], rfl, .nil⟩
  | cons a arguments ih =>
    rw [List.forall_mem_cons] at hlink hup
    rw [List.findSome?_cons, List.mapM_cons]
    rcases candidates_cases hfiles hlink.1 hup.1 with ⟨e, hrefusal, hfirst⟩ |
      ⟨hrefusal, cs, hfirst, hstands⟩
    · rw [hrefusal, hfirst]
      exact Or.inl ⟨e, rfl, rfl⟩
    · rw [hrefusal, hfirst]
      rcases ih hlink.2 hup.2 with ⟨e, hrest, hmapM⟩ | ⟨hrest, lists, hmapM, hall⟩
      · rw [hmapM]
        exact Or.inl ⟨e, hrest, rfl⟩
      · rw [hmapM]
        exact Or.inr ⟨hrest, cs :: lists, rfl, .cons hstands hall⟩

/-- **Expansion lists the files that the arguments stand for, each once and in order.**

Let no argument be a link to a directory, and no absolute one go up. An expansion that succeeds
concatenates what the arguments stand for and keeps the first of each key; so every key is there, none
is there twice, and each name but `-` resolves to its key. It fails only for an argument that cannot be
looked up or walked, and then with the reason of the first such argument. -/
theorem expand_eq_firsts (o : FileOptions) {w : World} {arguments : List Text}
    (hfiles : w.files.WellFormed)
    (hlink : ∀ a ∈ arguments, ¬ w.IsLinkToDirectory (o.join a))
    (hup : ∀ a ∈ arguments, Path.isAbsolute a → Path.up ∉ Text.splitOn '/' a) :
    (∀ names, o.expand w arguments = .ok names → ∃ lists kept,
      List.Forall₂ (o.Stands w) arguments lists ∧
      kept = lists.flatten.eraseDupsBy (fun c d ↦ c.key == d.key) ∧
      names = kept.map (·.name) ∧
      (kept.map (·.key)).Nodup ∧
      (∀ c ∈ lists.flatten, ∃ d ∈ kept, d.key = c.key) ∧
      ∀ c ∈ kept, c = ⟨stdinName, stdinName⟩ ∨
        o.resolve w c.name = .ok c.key ∧ c.key ≠ stdinName) ∧
    ∀ e, o.expand w arguments = .error e ↔ arguments.findSome? (o.refusal? w) = some e := by
  rcases mapM_candidates_cases hfiles hlink hup with ⟨e, hrefusal, hmapM⟩ |
    ⟨hrefusal, lists, hmapM, hall⟩
  · have hexpand : o.expand w arguments = .error e := by
      rw [expand, hmapM]
      rfl
    rw [hexpand, hrefusal]
    refine ⟨fun names h ↦ ?_, fun e' ↦ by simp⟩
    cases h
  · have hexpand : o.expand w arguments = .ok ((firstOfEachKey [] lists.flatten).map (·.name)) := by
      rw [expand, hmapM]
      rfl
    rw [hexpand, hrefusal]
    refine ⟨fun names hnames ↦ ?_, fun e' ↦ by simp⟩
    obtain ⟨hnodup, hmem⟩ := nodup_firstOfEachKey [] lists.flatten
    refine ⟨lists, firstOfEachKey [] lists.flatten, hall, ?_, (Except.ok.inj hnames).symm, hnodup,
      fun c hc ↦ ?_, fun c hc ↦ ?_⟩
    · have hunseen : (lists.flatten.filter fun c ↦ !List.contains [] c.key) = lists.flatten :=
        List.filter_eq_self.2 fun _ _ ↦ rfl
      rw [firstOfEachKey_eq, hunseen]
    · exact (exists_mem_firstOfEachKey hc []).resolve_left List.not_mem_nil
    · obtain ⟨cs, hcs, hc'⟩ := List.mem_flatten.1 (hmem c hc).1
      obtain ⟨a, hstands⟩ := exists_of_forall₂ hall hcs
      exact (hstands.resolve_name c hc').imp_right fun hkey ↦ ⟨hkey, ne_stdinName_of_resolve hkey⟩

/-- A directory `d` with files and a directory, as seen from above it. -/
def overlapping : World where
  files := ⟨[([Text.ofString "d"], .directory),
    ([Text.ofString "d", Text.ofString "b.yaml"], .file []),
    ([Text.ofString "d", Text.ofString "n.txt"], .file []),
    ([Text.ofString "d", Text.ofString "c"], .directory),
    ([Text.ofString "d", Text.ofString "c", Text.ofString "x.yml"], .file []),
    ([Text.ofString "d", Text.ofString "a.YML"], .file [])]⟩

/-- A file is listed under the first of its names, and the directory adds the others. -/
theorem expand_eq_firsts_overlapping :
    ∃ lists, List.Forall₂ (Stands {} overlapping) [Text.ofString "-", Text.ofString "./d/b.yaml",
        Text.ofString "d", Text.ofString "/d/c"] lists ∧
      [Text.ofString "-", Text.ofString "./d/b.yaml", Text.ofString "d/a.YML",
        Text.ofString "d/c/x.yml"] =
        (lists.flatten.eraseDupsBy fun c d ↦ c.key == d.key).map (·.name) := by
  have hlink : ∀ a ∈ [Text.ofString "-", Text.ofString "./d/b.yaml", Text.ofString "d",
      Text.ofString "/d/c"], ¬ overlapping.IsLinkToDirectory (join {} a) := by
    rintro a ha ⟨⟨loc, t, h⟩, -⟩
    simp only [List.mem_cons, List.not_mem_nil, or_false] at ha
    rcases ha with rfl | rfl | rfl | rfl <;> (cbv at h; cases h)
  obtain ⟨lists, kept, hstands, rfl, hnames, -⟩ := (expand_eq_firsts {}
    ⟨by decide, by decide, by decide, by decide⟩ hlink (by decide)).1
    [Text.ofString "-", Text.ofString "./d/b.yaml", Text.ofString "d/a.YML", Text.ofString "d/c/x.yml"]
    (by cbv)
  exact ⟨lists, hstands, hnames⟩

end FileOptions

end StructuralLint
