import StructuralLint.Proofs.Files.Resolve

/-!
# The files of a directory argument

Whether an argument is a directory is found out by a look-up that follows links, and its files by a walk
that does not. The two agree on a directory that is named by a path of its own: it is walked where it was
found, and each matching entry below it has one name in the expansion (`NamesDirectory.forall₂_expand`). How
many there are is a matter of the directory and not of the argument.

They do not agree on a link to a directory. The walk stops at the link and lists the link itself, so what is
below the directory is left out, without a failure (`expand_of_link`). And an absolute argument is walked as
it is given: when it goes up from a link, what is below it is named by paths that lead elsewhere.
-/

namespace StructuralLint

/-! ### Paths below a path -/

namespace Path

/-- **A path below a path has the extension of its last name.** -/
theorem extension_below (path : Text) {n : Location} {name : Text}
    (hn : ∀ part ∈ n ++ [name], IsName part) :
    extension (below path (n ++ [name])) = extension name := by
  have hfront : ∀ part ∈ n, IsName part := fun part hpart ↦ hn part (List.mem_append_left _ hpart)
  have hname : IsName name := hn name (by simp)
  rw [← join_below path hfront hname, extension_join_of_isName hname]

end Path

namespace World

variable {w : World} {path key : Text} {l n : Location}

/-- **What is below a directory is where its path leads**, unless it is a link. -/
theorem leadsTo_below (hfiles : w.files.WellFormed) (hpath : w.LeadsTo (Path.ofText path) l)
    {e : Entry} (he : w.files.get? (l ++ n) = some e) (hlink : ∀ t, e ≠ .link t) :
    w.LeadsTo (Path.ofText (Path.below path n)) (l ++ n) := by
  obtain ⟨start, hstart, hleads⟩ := hpath
  have hn := hfiles.isName_of_get?_append he
  rw [Path.ofText_below path hn]
  exact ⟨start, hstart, FileSystem.leads_append_iff.2 ⟨l, hleads, hfiles.leads_below he hlink⟩⟩

/-- A walk that starts at a link lists it and nothing else. -/
theorem walk_of_link {loc : Option Location} {t : Text}
    (h : w.lookUp "lstat" false path = .ok (loc, .link t)) : w.walk path = .ok [path] := by
  rw [walk, h]
  rfl

end World

namespace FileOptions

variable {o : FileOptions} {w : World} {argument : Text} {l : Location}

/-! ### One argument -/

theorem expand_singleton (o : FileOptions) (w : World) (argument : Text) :
    o.expand w [argument] =
      (o.candidates w argument).map fun cs ↦ (firstOfEachKey [] cs).map (·.name) := by
  rw [expand, List.mapM_cons, List.mapM_nil]
  rcases o.candidates w argument with e | cs
  · rfl
  · simp [bind, Except.bind, pure, Except.pure, Except.map]

/-- Nothing is left out when all keys are different. -/
theorem firstOfEachKey_of_nodup {seen : List Text} {cs : List Candidate}
    (hnodup : (cs.map (·.key)).Nodup) (hseen : ∀ c ∈ cs, c.key ∉ seen) :
    firstOfEachKey seen cs = cs := by
  induction cs generalizing seen with
  | nil => rfl
  | cons c cs ih =>
    rw [List.map_cons, List.nodup_cons] at hnodup
    rw [List.forall_mem_cons] at hseen
    rw [firstOfEachKey, if_neg (by simpa using hseen.1), ih hnodup.2 fun d hd ↦ ?_]
    rw [List.mem_cons, not_or]
    exact ⟨fun hkey ↦ hnodup.1 (hkey ▸ List.mem_map_of_mem hd), hseen.2 d hd⟩

/-- **An argument that names a directory**, links followed. -/
structure NamesDirectory (o : FileOptions) (w : World) (argument : Text) (l : Location) : Prop where
  /-- It is not standard input. -/
  ne_stdinName : argument ≠ stdinName
  /-- The directory is at this location. -/
  stat_eq : w.lookUp "stat" true (o.join argument) = .ok (some l, .directory)

/-- **It is walked where it was found**: the walk does not stop at a link, and the paths that it makes up
lead below the directory. -/
structure IsWalkedThere (o : FileOptions) (w : World) (argument : Text) (l : Location) : Prop where
  /-- It is not a link itself. -/
  not_link : ¬ w.IsLinkToDirectory (o.join argument)
  /-- An absolute argument that goes up leads where its normal form does. -/
  leadsTo : Path.isAbsolute argument → Path.up ∈ Text.splitOn '/' argument →
    w.LeadsTo (Path.ofText argument) l

/-- A location below a directory, as far as its extension is looked for. -/
def matchesExtension (o : FileOptions) (n : Location) : Bool :=
  o.hasExtension (n.getLast?.getD [])

namespace NamesDirectory

theorem isDirectory_eq (h : o.NamesDirectory w argument l) :
    w.isDirectory (o.join argument) = .ok true :=
  World.isDirectory_eq_true_iff.2 ⟨_, h.stat_eq⟩

theorem find_eq (h : o.NamesDirectory w argument l) :
    w.find true (o.join argument) = .ok (some l) :=
  (World.lookUp_eq_ok_some_iff.1 h.stat_eq).1

theorem leadsTo_join (h : o.NamesDirectory w argument l) (hwalked : o.IsWalkedThere w argument l) :
    w.LeadsTo (Path.ofText (o.join argument)) l := by
  by_cases hup : Path.isAbsolute argument = true ∧ Path.up ∈ Text.splitOn '/' argument
  · rw [join_of_isAbsolute hup.1]
    exact hwalked.leadsTo hup.1 hup.2
  · exact FileOptions.leadsTo_join (fun habsolute hmem ↦ hup ⟨habsolute, hmem⟩) h.isDirectory_eq h.find_eq

/-- The argument stands for a path with a root or a clean one. -/
theorem isAbsolute_or_eq_text (h : o.NamesDirectory w argument l) :
    Path.isAbsolute (o.join argument) = true ∨ o.join argument = (Path.ofText (o.join argument)).text := by
  by_cases hargument : Path.isAbsolute argument = true
  · exact .inl (by rw [join_of_isAbsolute hargument, hargument])
  · exact .inr (join_eq_text hargument (World.ne_nil_of_isDirectory h.isDirectory_eq))

/-- Where the working directory is called by its location, the absolute form leads to the directory too. -/
theorem leadsAbsolutely (h : o.NamesDirectory w argument l) (hfiles : w.files.WellFormed)
    (hcalled : w.IsCalledByLocation) : w.LeadsAbsolutely (o.join argument) := by
  obtain ⟨start, hstart, hdir⟩ := World.exists_start_of_find h.find_eq
  obtain hroot | hclean := h.isAbsolute_or_eq_text
  · intro key hkey l
    rw [World.absolute, if_pos hroot, Except.ok.injEq] at hkey
    rw [← hkey, Path.ofText_clean]
  · exact World.leadsAbsolutely hfiles hcalled hstart hdir hclean

/-- What is found below the directory, in order. -/
theorem exists_forall₂_found (h : o.NamesDirectory w argument l) (hfiles : w.files.WellFormed)
    (hwalked : o.IsWalkedThere w argument l) {locations : List Location}
    (hlists : w.files.Lists l locations) {cs : List Candidate}
    (hcs : o.candidates w argument = .ok cs) :
    List.Forall₂ (fun n c ↦ o.Found w argument (Path.below (o.join argument) n) c)
      (locations.filter o.matchesExtension) cs := by
  obtain ⟨hstdin, -⟩ | ⟨-, hfile, -⟩ | ⟨-, -, hbelow⟩ := candidates_eq_ok_iff.1 hcs
  · exact absurd hstdin h.ne_stdinName
  · rw [h.isDirectory_eq] at hfile
    cases hfile
  obtain ⟨paths, hwalk, -⟩ := foundBelow_eq_ok_iff.1 hbelow
  have hleads : ∀ m, w.find true (o.join argument) = .ok (some m) →
      w.LeadsTo (Path.ofText (o.join argument)) m := by
    intro m hm
    obtain rfl : l = m := Option.some.inj (Except.ok.inj (h.find_eq.symm.trans hm))
    exact h.leadsTo_join hwalked
  obtain ⟨cs', hbelow', hstands⟩ := exists_foundBelow hfiles hwalked.not_link hleads h.ne_stdinName
    h.isDirectory_eq hwalk
  obtain rfl : cs = cs' := Except.ok.inj (hbelow.symm.trans hbelow')
  cases hstands with
  | input => exact absurd rfl h.ne_stdinName
  | file _ hfile =>
    rw [h.isDirectory_eq] at hfile
    cases hfile
  | directory _ hstat hlists' hfound =>
    obtain ⟨hl, -⟩ := Prod.mk.inj (Except.ok.inj (h.stat_eq.symm.trans hstat))
    obtain rfl := Option.some.inj hl
    obtain rfl := hlists.unique hlists'
    rw [← hasExtension_eq, List.filter_map, List.forall₂_map_left_iff] at hfound
    -- the directory itself is not listed, so that every path ends with a name
    have hextension : locations.filter (o.hasExtension ∘ Path.below (o.join argument)) =
        locations.filter o.matchesExtension := by
      refine List.filter_congr fun n hn ↦ ?_
      obtain ⟨e, he, hfile⟩ := (hlists.mem_iff n).1 hn
      rcases List.eq_nil_or_concat' n with rfl | ⟨n, name, rfl⟩
      · rw [List.append_nil, (World.lookUp_eq_ok_some_iff.1 h.stat_eq).2] at he
        cases he
        cases hfile
      · have hnames := hfiles.isName_of_get?_append he
        simp only [Function.comp_apply, hasExtension, matchesExtension, Path.extension_below _ hnames,
          List.getLast?_concat, Option.getD_some]
    rwa [hextension] at hfound

/-- **Each matching entry below the directory has one name in the expansion**, in order. -/
theorem forall₂_expand (h : o.NamesDirectory w argument l) (hfiles : w.files.WellFormed)
    (hwalked : o.IsWalkedThere w argument l) {locations : List Location}
    (hlists : w.files.Lists l locations) {names : List Text}
    (hexpand : o.expand w [argument] = .ok names) :
    List.Forall₂ (fun n name ↦ ∃ c, c.name = name ∧
        o.Found w argument (Path.below (o.join argument) n) c)
      (locations.filter o.matchesExtension) names := by
  rw [expand_singleton] at hexpand
  rcases hcs : o.candidates w argument with e | cs
  · rw [hcs] at hexpand
    cases hexpand
  rw [hcs] at hexpand
  obtain rfl : (firstOfEachKey [] cs).map (·.name) = names := Except.ok.inj hexpand
  have hfound := h.exists_forall₂_found hfiles hwalked hlists hcs
  obtain ⟨start, hstart, -⟩ := World.exists_start_of_find h.find_eq
  obtain ⟨base, hbase⟩ := World.exists_absolute hstart
  -- different entries have different absolute paths, so that none is taken for another
  have hkeys : cs.map (fun c ↦ Path.ofText c.key) = (locations.filter o.matchesExtension).map
      fun n ↦ (⟨true, (Path.ofText base).parts ++ n⟩ : Path) := by
    symm
    rw [← List.forall₂_eq_eq_eq, List.forall₂_map_left_iff, List.forall₂_map_right_iff]
    refine ((List.forall₂_and_left _ _).2 ⟨fun _ hmem ↦ hmem, hfound⟩).imp fun n c hc ↦ ?_
    obtain ⟨hmem, hc⟩ := hc
    obtain ⟨e, he, -⟩ := (hlists.mem_iff n).1 (List.mem_of_mem_filter hmem)
    exact (World.ofText_absolute_below h.isAbsolute_or_eq_text (hfiles.isName_of_get?_append he) hbase
      hc.absolute_eq).symm
  have hnodup : (cs.map (·.key)).Nodup := by
    refine List.Nodup.of_map Path.ofText ?_
    rw [List.map_map]
    refine hkeys ▸ List.Nodup.map ?_ (hlists.nodup.filter _)
    intro n m hnm
    exact List.append_cancel_left (Path.mk.inj hnm).2
  rw [firstOfEachKey_of_nodup hnodup (by simp), List.forall₂_map_right_iff]
  exact hfound.imp fun n c hc ↦ ⟨c, rfl, hc⟩

end NamesDirectory

/-- An argument has a name itself when it is listed. -/
theorem exists_foundName_self (hdir : w.isDirectory (o.join argument) = .ok true) :
    ∃ name, o.foundName argument (o.join argument) = .ok name ∧ o.join name = o.join argument := by
  by_cases hargument : Path.isAbsolute argument = true
  · exact ⟨o.join argument, if_pos hargument, by rw [join_of_isAbsolute hargument,
      join_of_isAbsolute hargument]⟩
  · have hself : Path.below (o.join argument) [] = o.join argument := by
      rw [Path.below, List.append_nil]
      exact (join_eq_text hargument (World.ne_nil_of_isDirectory hdir)).symm
    obtain ⟨name, hname, -, hjoin⟩ := o.exists_foundName argument (n := []) (by simp)
    rw [hself] at hname hjoin
    exact ⟨name, hname, hjoin⟩

/-- **A link to a directory** stands for itself, if it has an extension that is looked for, and for nothing
otherwise. -/
theorem expand_of_link (hstdin : argument ≠ stdinName)
    (hlink : w.IsLinkToDirectory (o.join argument)) :
    (o.hasExtension (o.join argument) = false → o.expand w [argument] = .ok []) ∧
      (o.hasExtension (o.join argument) = true →
        ∃ name, o.expand w [argument] = .ok [name] ∧ o.join name = o.join argument) := by
  obtain ⟨⟨loc, t, hstat⟩, hdir⟩ := hlink
  have hwalk := World.walk_of_link hstat
  have hcandidates : ∀ cs, o.foundBelow w argument = .ok cs → o.candidates w argument = .ok cs :=
    fun cs hcs ↦ candidates_eq_ok_iff.2 (Or.inr (Or.inr ⟨hstdin, hdir, hcs⟩))
  constructor
  · intro hextension
    have hbelow : o.foundBelow w argument = .ok [] :=
      foundBelow_eq_ok_iff.2 ⟨_, hwalk, by simp [hextension]⟩
    rw [expand_singleton, hcandidates _ hbelow]
    rfl
  · intro hextension
    obtain ⟨name, hfoundName, hname⟩ := exists_foundName_self hdir
    obtain ⟨start, hstart, -⟩ := World.exists_start_of_walk hwalk
    rw [← hname] at hstart
    obtain ⟨key, hkey⟩ := exists_resolve hstart
    have hfound : o.found w argument (o.join argument) = .ok ⟨key, name⟩ :=
      found_eq_ok_iff.2 ⟨hfoundName, hkey⟩
    have hbelow : o.foundBelow w argument = .ok [⟨key, name⟩] :=
      foundBelow_eq_ok_iff.2 ⟨_, hwalk, by simpa [hextension] using hfound⟩
    refine ⟨name, ?_, hname⟩
    rw [expand_singleton, hcandidates _ hbelow]
    rfl

/-- **The files of a directory argument.** Let an argument name a directory and be walked where it was
found. Then an expansion that succeeds has as many names as there are entries below the directory that
are no directories and have an extension that is looked for: their number does not depend on the argument.
Each regular file among them has a name for a path that leads to it. The absolute form of this path, which is
what is opened, leads to it as well if the working directory is called by its location, or if just the
absolute form of the argument leads where the argument does.

An argument that is a link to a directory is not walked. It is left out, or listed itself. -/
theorem directory_expands (o : FileOptions) {w : World} (hfiles : w.files.WellFormed) :
    (∀ l, w.files.get? l = some .directory → ∃ locations, w.files.Lists l locations ∧
      ∀ argument names, o.NamesDirectory w argument l → o.IsWalkedThere w argument l →
        o.expand w [argument] = .ok names →
        names.length = (locations.filter o.matchesExtension).length ∧
        ∀ n content, w.files.get? (l ++ n) = some (.file content) → o.matchesExtension n = true →
          ∃ name ∈ names, ∃ key, w.LeadsTo (Path.ofText (o.join name)) (l ++ n) ∧
            o.resolve w name = .ok key ∧
            (w.IsCalledByLocation ∨ w.LeadsAbsolutely (o.join argument) →
              w.LeadsTo (Path.ofText key) (l ++ n))) ∧
    ∀ argument, argument ≠ stdinName → w.IsLinkToDirectory (o.join argument) →
      (o.hasExtension (o.join argument) = false → o.expand w [argument] = .ok []) ∧
      (o.hasExtension (o.join argument) = true →
        ∃ name, o.expand w [argument] = .ok [name] ∧ o.join name = o.join argument) := by
  refine ⟨fun l hl ↦ ?_, fun argument hstdin hlink ↦ expand_of_link hstdin hlink⟩
  have hlists := hfiles.lists_walkBelow hl (Nat.lt_succ_self _)
  refine ⟨_, hlists, fun argument names hargument hwalked hexpand ↦ ?_⟩
  have hnames := hargument.forall₂_expand hfiles hwalked hlists hexpand
  refine ⟨hnames.length_eq.symm, fun n content hn hextension ↦ ?_⟩
  have hmem : n ∈ (w.files.walkBelow (w.files.entries.length + 1) l .directory).filter
      o.matchesExtension :=
    List.mem_filter.2 ⟨(hlists.mem_iff n).2 ⟨_, hn, rfl⟩, hextension⟩
  obtain ⟨name, hname, c, rfl, hc⟩ := exists_of_forall₂
    ((List.forall₂_and_left _ _).2 ⟨fun _ hname ↦ hname, hnames.flip⟩) hmem
  have hpath : w.LeadsTo (Path.ofText (Path.below (o.join argument) n)) (l ++ n) :=
    World.leadsTo_below hfiles (hargument.leadsTo_join hwalked) hn fun t ↦ by simp
  refine ⟨c.name, hname, c.key, by rwa [hc.join_name], hc.resolve_name, fun hleads ↦ ?_⟩
  have habsolute : w.LeadsAbsolutely (o.join argument) :=
    hleads.elim (hargument.leadsAbsolutely hfiles) id
  have hbelow := habsolute.below hargument.isAbsolute_or_eq_text (hfiles.isName_of_get?_append hn)
  exact (hbelow c.key hc.absolute_eq _).2 hpath

/-- A directory `d` with a file, and a link to it. -/
def linked : World where
  files := ⟨[([Text.ofString "d"], .directory),
    ([Text.ofString "d", Text.ofString "a.yaml"], .file []),
    ([Text.ofString "l"], .link (Text.ofString "d"))]⟩

/-- The directory itself is walked. -/
theorem directory_expands_linked :
    expand {} linked [Text.ofString "./d/"] = .ok [Text.ofString "d/a.yaml"] ∧
      ∃ name ∈ [Text.ofString "d/a.yaml"], ∃ key, resolve {} linked name = .ok key ∧
        linked.LeadsTo (Path.ofText key) [Text.ofString "d", Text.ofString "a.yaml"] := by
  have hexpand : expand {} linked [Text.ofString "./d/"] = .ok [Text.ofString "d/a.yaml"] := by cbv
  have hnames : NamesDirectory {} linked (Text.ofString "./d/") [Text.ofString "d"] :=
    ⟨by decide, by cbv⟩
  have hlink : ¬ linked.IsLinkToDirectory (join {} (Text.ofString "./d/")) := by
    rintro ⟨⟨loc, t, h⟩, -⟩
    cbv at h
    cases h
  obtain ⟨locations, -, hall⟩ := (directory_expands {} (w := linked)
    ⟨by decide, by decide, by decide, by decide⟩).1 [Text.ofString "d"] (by decide)
  have hwalked : IsWalkedThere {} linked (Text.ofString "./d/") [Text.ofString "d"] :=
    ⟨hlink, fun habsolute ↦ absurd habsolute (by decide)⟩
  obtain ⟨name, hname, key, -, hkey, hleads⟩ :=
    (hall _ _ hnames hwalked hexpand).2 [Text.ofString "a.yaml"] [] (by decide) (by decide)
  exact ⟨hexpand, name, hname, key, hkey, hleads (.inl rfl)⟩

/-- **A link to a directory is ignored.** It is found to be the same directory as the one it leads to, and the
expansion succeeds without a name for the file, which the directory itself expands to. -/
theorem link_to_directory_ignored :
    NamesDirectory {} linked (Text.ofString "l") [Text.ofString "d"] ∧
      linked.files.get? ([Text.ofString "d"] ++ [Text.ofString "a.yaml"]) = some (.file []) ∧
      matchesExtension {} [Text.ofString "a.yaml"] = true ∧
      expand {} linked [Text.ofString "l"] = .ok [] ∧
      NamesDirectory {} linked (Text.ofString "d") [Text.ofString "d"] ∧
      expand {} linked [Text.ofString "d"] = .ok [Text.ofString "d/a.yaml"] :=
  ⟨⟨by decide, by cbv⟩, by decide, by decide, by cbv, ⟨by decide, by cbv⟩, by cbv⟩

/-- A link `y/l` to the directory `x/d`, a file beside that directory, and a directory `y/d`. -/
def linkedAway : World where
  files := ⟨[([Text.ofString "x"], .directory), ([Text.ofString "x", Text.ofString "d"], .directory),
    ([Text.ofString "x", Text.ofString "b.yaml"], .file []), ([Text.ofString "y"], .directory),
    ([Text.ofString "y", Text.ofString "d"], .directory),
    ([Text.ofString "y", Text.ofString "l"], .link (Text.ofString "../x/d"))]⟩

-- going up from the link is going up from `x/d`, and the names are those of going up from `y/l`
example : linkedAway.lookUp "stat" true (Text.ofString "/y/l/..") =
      .ok (some [Text.ofString "x"], .directory) ∧
    expand {} linkedAway [Text.ofString "/y/l/.."] = .ok [Text.ofString "/y/b.yaml"] ∧
    linkedAway.find true (Text.ofString "/y/b.yaml") = .error .noSuchEntry :=
  ⟨by cbv, by cbv, by cbv⟩

end FileOptions

end StructuralLint
