import StructuralLint.Files.System
import StructuralLint.Proofs.Files.Path

/-!
# Where a path leads

Looking a path up follows its components one by one, and a symbolic link puts the components of its
target in front of the rest. The number of links is limited, which makes the look-up terminate and
stands in the way of reasoning: a path and a longer one do not have the same number of links left.

`FileSystem.Leads` is the same without the limit, as a relation. It is single-valued
(`Leads.unique`) and composes (`leads_append_iff`), and whatever a look-up finds is related
(`leads_of_followSteps`). So once two paths have been found, the limit is forgotten: a name below a path
leads to the entry of that name in the directory that the path leads to.

A path is looked up by its text, and `LeadsTo` speaks of its normal form. Both agree when cleaning
cancels nothing, as for a clean path and for one without `..` (`leadsTo_ofText`).
-/

namespace StructuralLint

/-! ### Following components -/

/-- **Following components from a location**, links included. -/
inductive FileSystem.Leads (fs : FileSystem) : Location → List Text → Location → Prop
  /-- There is nothing to follow. -/
  | nil {place : Location} : Leads fs place [] place
  /-- The component stays where it is. -/
  | here {place target : Location} {rest : List Text} :
    fs.get? place = some .directory → Leads fs place rest target →
      Leads fs place (Path.here :: rest) target
  /-- The component goes up. -/
  | up {place target : Location} {rest : List Text} :
    fs.get? place = some .directory → Leads fs place.dropLast rest target →
      Leads fs place (Path.up :: rest) target
  /-- The component names an entry that is no link. -/
  | entry {place target : Location} {part : Text} {rest : List Text} {e : Entry} :
    fs.get? place = some .directory → part ≠ Path.here → part ≠ Path.up →
      fs.get? (place ++ [part]) = some e → (∀ t, e ≠ .link t) →
      Leads fs (place ++ [part]) rest target → Leads fs place (part :: rest) target
  /-- The component names a link. -/
  | link {place target : Location} {part t : Text} {rest : List Text} :
    fs.get? place = some .directory → part ≠ Path.here → part ≠ Path.up →
      fs.get? (place ++ [part]) = some (.link t) →
      Leads fs (if Path.isAbsolute t then [] else place) (FileSystem.steps t ++ rest) target →
      Leads fs place (part :: rest) target

namespace FileSystem

variable {fs : FileSystem} {place target : Location}

theorem Leads.unique {parts : List Text} {target' : Location} (h : fs.Leads place parts target)
    (h' : fs.Leads place parts target') : target = target' := by
  induction h with
  | nil =>
    cases h'
    rfl
  | here _ _ ih =>
    cases h' with
    | here _ h' => exact ih h'
    | entry _ hne => exact absurd rfl hne
    | link _ hne => exact absurd rfl hne
  | up _ _ ih =>
    cases h' with
    | up _ h' => exact ih h'
    | entry _ _ hne => exact absurd rfl hne
    | link _ _ hne => exact absurd rfl hne
  | entry _ hhere hup he hlink _ ih =>
    cases h' with
    | here => exact absurd rfl hhere
    | up => exact absurd rfl hup
    | entry _ _ _ _ _ h' => exact ih h'
    | link _ _ _ he' =>
      rw [he] at he'
      exact absurd (Option.some.inj he') (hlink _)
  | link _ hhere hup he _ ih =>
    cases h' with
    | here => exact absurd rfl hhere
    | up => exact absurd rfl hup
    | entry _ _ _ he' hlink =>
      rw [he] at he'
      exact absurd (Option.some.inj he').symm (hlink _)
    | link _ _ _ he' h' =>
      rw [he, Option.some.injEq, Entry.link.injEq] at he'
      subst he'
      exact ih h'

/-- **Components are followed in turn.** -/
theorem leads_append_iff {A B : List Text} :
    fs.Leads place (A ++ B) target ↔ ∃ between, fs.Leads place A between ∧
      fs.Leads between B target := by
  constructor
  · intro h
    generalize hparts : A ++ B = parts at h
    induction h generalizing A with
    | nil =>
      obtain ⟨rfl, rfl⟩ := List.append_eq_nil_iff.1 hparts
      exact ⟨_, .nil, .nil⟩
    | here hdir h ih =>
      rcases List.append_eq_cons_iff.1 hparts with ⟨rfl, rfl⟩ | ⟨A, rfl, rfl⟩
      · exact ⟨_, .nil, .here hdir h⟩
      · obtain ⟨between, hA, hB⟩ := ih rfl
        exact ⟨between, .here hdir hA, hB⟩
    | up hdir h ih =>
      rcases List.append_eq_cons_iff.1 hparts with ⟨rfl, rfl⟩ | ⟨A, rfl, rfl⟩
      · exact ⟨_, .nil, .up hdir h⟩
      · obtain ⟨between, hA, hB⟩ := ih rfl
        exact ⟨between, .up hdir hA, hB⟩
    | entry hdir hhere hup he hlink h ih =>
      rcases List.append_eq_cons_iff.1 hparts with ⟨rfl, rfl⟩ | ⟨A, rfl, rfl⟩
      · exact ⟨_, .nil, .entry hdir hhere hup he hlink h⟩
      · obtain ⟨between, hA, hB⟩ := ih rfl
        exact ⟨between, .entry hdir hhere hup he hlink hA, hB⟩
    | link hdir hhere hup he h ih =>
      rcases List.append_eq_cons_iff.1 hparts with ⟨rfl, rfl⟩ | ⟨A, rfl, rfl⟩
      · exact ⟨_, .nil, .link hdir hhere hup he h⟩
      · obtain ⟨between, hA, hB⟩ := ih (List.append_assoc _ _ _)
        exact ⟨between, .link hdir hhere hup he hA, hB⟩
  · rintro ⟨between, hA, hB⟩
    induction hA with
    | nil => exact hB
    | here hdir _ ih => exact .here hdir (ih hB)
    | up hdir _ ih => exact .up hdir (ih hB)
    | entry hdir hhere hup he hlink _ ih => exact .entry hdir hhere hup he hlink (ih hB)
    | link hdir hhere hup he _ ih =>
      exact .link hdir hhere hup he (List.append_assoc _ _ _ ▸ ih hB)

theorem leads_here_iff : fs.Leads place [Path.here] target ↔
    fs.get? place = some .directory ∧ place = target := by
  constructor
  · intro h
    cases h with
    | here hdir h =>
      cases h
      exact ⟨hdir, rfl⟩
    | entry _ hne => exact absurd rfl hne
    | link _ hne => exact absurd rfl hne
  · rintro ⟨hdir, rfl⟩
    exact .here hdir .nil

/-- Components that stay where they are may be left out. -/
theorem Leads.filter_ne_here {parts : List Text} (h : fs.Leads place parts target) :
    fs.Leads place (parts.filter (· ≠ Path.here)) target := by
  induction parts generalizing place with
  | nil => exact h
  | cons part parts ih =>
    rw [← List.singleton_append, leads_append_iff] at h
    obtain ⟨between, hpart, hparts⟩ := h
    rw [List.filter_cons]
    split
    · rw [← List.singleton_append, leads_append_iff]
      exact ⟨between, hpart, ih hparts⟩
    · next hne =>
      obtain rfl : part = Path.here := by simpa using hne
      obtain ⟨-, rfl⟩ := leads_here_iff.1 hpart
      exact ih hparts

/-- **A name leads to the entry of that name.** -/
theorem Leads.concat {parts : List Text} (h : fs.Leads place parts target)
    (hdir : fs.get? target = some .directory) {name : Text} (hname : Path.IsName name) {e : Entry}
    (he : fs.get? (target ++ [name]) = some e) (hlink : ∀ t, e ≠ .link t) :
    fs.Leads place (parts ++ [name]) (target ++ [name]) :=
  leads_append_iff.2 ⟨target, h, .entry hdir hname.ne_here hname.ne_up he hlink .nil⟩

/-! ### Look-ups -/

/-- **What a look-up finds is where the components lead.** -/
theorem leads_of_followSteps {links : ℕ} {parts : List Text}
    (h : fs.followSteps true links place parts = .ok target) : fs.Leads place parts target := by
  generalize hfollow : true = follow at h
  fun_induction FileSystem.followSteps fs follow links place parts with
  | case1 =>
    cases h
    exact .nil
  | case3 _ _ _ hdir ih => exact .here (not_not.1 hdir) (ih h)
  | case4 _ _ _ hdir _ ih => exact .up (not_not.1 hdir) (ih h)
  | case7 _ _ _ _ _ _ _ _ _ _ hlast =>
    rw [← hfollow] at hlast
    simp at hlast
  | case10 _ _ _ hdir hhere hup _ t he _ _ _ ih =>
    exact .link (not_not.1 hdir) hhere hup he (by simpa using ih (by simpa using h))
  | case11 _ _ _ _ hdir hhere hup _ e hlink he ih =>
    exact .entry (not_not.1 hdir) hhere hup he hlink (ih h)
  | _ => cases h

/-- A look-up that does not follow a last link, and finds none, is one that does. -/
theorem followSteps_true_of_false {links : ℕ} {parts : List Text}
    (h : fs.followSteps false links place parts = .ok target)
    (hlink : ∀ t, fs.get? target ≠ some (.link t)) :
    fs.followSteps true links place parts = .ok target := by
  generalize hfollow : false = follow at h
  fun_induction FileSystem.followSteps fs follow links place parts with
  | case1 =>
    rw [followSteps]
    exact h
  | case3 _ _ _ hdir ih =>
    rw [followSteps, if_neg hdir, if_pos rfl]
    exact ih h
  | case4 _ _ _ hdir hhere ih =>
    rw [followSteps, if_neg hdir, if_neg hhere, if_pos rfl]
    exact ih h
  | case7 _ _ _ _ _ _ _ _ t he _ =>
    cases h
    exact absurd he (hlink t)
  | case10 _ _ _ hdir hhere hup hsize t he _ _ hempty ih =>
    rw [followSteps, if_neg hdir, if_neg hhere, if_neg hup, if_neg hsize, he]
    simpa [hempty] using ih (by simpa using h)
  | case11 _ _ _ _ hdir hhere hup hsize e hlink' he ih =>
    rw [followSteps, if_neg hdir, if_neg hhere, if_neg hup, if_neg hsize, he]
    cases e with
    | link t => exact (hlink' t rfl).elim
    | _ => exact ih h
  | _ => cases h

end FileSystem

/-! ### Paths -/

namespace World

variable {w : World} {path : Text} {l : Location}

/-- Where a path starts from. -/
def start? (w : World) (isRooted : Bool) : Option Location :=
  if isRooted then some [] else w.workingDirectory

/-- **Where a normal path leads**, links included. -/
def LeadsTo (w : World) (p : Path) (l : Location) : Prop :=
  ∃ start, w.start? p.isRooted = some start ∧ w.files.Leads start p.parts l

theorem LeadsTo.unique {p : Path} {l' : Location} (h : w.LeadsTo p l) (h' : w.LeadsTo p l') :
    l = l' := by
  obtain ⟨start, hstart, hleads⟩ := h
  obtain ⟨start', hstart', hleads'⟩ := h'
  rw [hstart, Option.some.injEq] at hstart'
  subst hstart'
  exact hleads.unique hleads'

theorem map_some_eq_ok_iff {x : Except SystemError Location} :
    x.map some = .ok (some l) ↔ x = .ok l := by
  cases x <;> simp [Except.map]

/-- **What it takes to find a path**: a text that the system takes, a place to start from and
components that can be followed. -/
theorem find_eq_ok_some_iff {follow : Bool} :
    w.find follow path = .ok (some l) ↔
      (path.any (Rune.isChar '\x00') = false ∧ path ≠ [] ∧ path.size < FileSystem.pathLimit) ∧
      ∃ start, w.start? (Path.isAbsolute path) = some start ∧
        w.files.followSteps follow FileSystem.linkLimit start (FileSystem.steps path) = .ok l := by
  rw [find, start?]
  by_cases hnul : path.any (Rune.isChar '\x00') = true
  · simp [hnul]
  by_cases hempty : path.isEmpty = true
  · simp_all
  by_cases hsize : FileSystem.pathLimit ≤ path.size
  · simp [hnul, hempty, hsize, Nat.not_lt.2 hsize]
  have hguards : path.any (Rune.isChar '\x00') = false ∧ path ≠ [] ∧
      path.size < FileSystem.pathLimit :=
    ⟨by rwa [Bool.not_eq_true] at hnul, by simpa using hempty, by omega⟩
  rw [if_neg hnul, if_neg hempty, if_neg hsize, and_iff_right hguards]
  by_cases habsolute : Path.isAbsolute path = true
  · simp [habsolute, map_some_eq_ok_iff]
  · rcases w.workingDirectory with - | dir
    · simp only [habsolute, Bool.false_eq_true, if_false, reduceCtorEq, false_and, exists_false,
        iff_false]
      split <;> simp
    · simp [habsolute, map_some_eq_ok_iff]

/-- A look-up follows the components that count, and some that stay where they are. -/
theorem filter_steps (path : Text) : (FileSystem.steps path).filter (· ≠ Path.here) =
    (Text.splitOn '/' path).filter Path.counts := by
  have hlast : (if (Text.splitOn '/' path).getLast? = some [] then [Path.here] else []).filter
      (· ≠ Path.here) = [] := by
    split <;> rfl
  rw [FileSystem.steps, List.filter_append, List.filter_filter, hlast, List.append_nil]
  refine List.filter_congr fun part _ ↦ ?_
  simp [Path.counts, Bool.and_comm]

/-- **A path leads where its normal form does**, if it is clean or has no `..`. -/
theorem leadsTo_ofText (h : w.find true path = .ok (some l))
    (hpath : path = (Path.ofText path).text ∨ Path.up ∉ Text.splitOn '/' path) :
    w.LeadsTo (Path.ofText path) l := by
  obtain ⟨-, start, hstart, hfollow⟩ := find_eq_ok_some_iff.1 h
  refine ⟨start, hstart, ?_⟩
  have hparts : (Path.ofText path).parts = (Text.splitOn '/' path).filter Path.counts := by
    rcases hpath with hclean | hup
    · rw [hclean, Path.filter_counts_splitOn_text (Path.isNormal_ofText path), ← hclean]
    · exact Path.parts_ofText_of_up_not_mem hup
  rw [hparts, ← filter_steps]
  exact (FileSystem.leads_of_followSteps hfollow).filter_ne_here

/-! ### Looking up on behalf of an operation -/

theorem lookUp_eq_ok_some_iff {operation : String} {follow : Bool} {e : Entry} :
    w.lookUp operation follow path = .ok (some l, e) ↔
      w.find follow path = .ok (some l) ∧ w.files.get? l = some e := by
  rw [lookUp]
  rcases w.find follow path with e' | - | m
  · simp
  · simp
  · simp only [Except.ok.injEq, Option.some.injEq]
    rcases hget : w.files.get? m with - | e'
    · simp only [reduceCtorEq, false_iff, not_and]
      rintro rfl
      simp [hget]
    · simp only [Except.ok.injEq, Prod.mk.injEq, Option.some.injEq]
      constructor
      · rintro ⟨rfl, rfl⟩
        exact ⟨rfl, hget⟩
      · rintro ⟨rfl, h⟩
        exact ⟨rfl, Option.some.inj (hget.symm.trans h)⟩

/-- Only the removed working directory has no location. -/
theorem eq_directory_of_lookUp_none {operation : String} {follow : Bool} {e : Entry}
    (h : w.lookUp operation follow path = .ok (none, e)) : e = .directory := by
  rw [lookUp] at h
  split at h
  · cases h
  · cases h
    rfl
  · split at h <;> cases h

/-- A look-up that does not follow a last link, and finds none, is one that does. -/
theorem find_true_of_false (h : w.find false path = .ok (some l))
    (hlink : ∀ t, w.files.get? l ≠ some (.link t)) : w.find true path = .ok (some l) := by
  obtain ⟨hguards, start, hstart, hfollow⟩ := find_eq_ok_some_iff.1 h
  exact find_eq_ok_some_iff.2
    ⟨hguards, start, hstart, FileSystem.followSteps_true_of_false hfollow hlink⟩

/-- A directory that can be read has a location, and its children are what is read. -/
theorem exists_of_readDirectory {entries : List (Text × Entry)}
    (h : w.readDirectory path = .ok entries) :
    ∃ l, w.lookUp "open" true path = .ok (some l, .directory) ∧ entries = w.files.children l := by
  rw [readDirectory] at h
  rcases hlook : w.lookUp "open" true path with e | ⟨- | l, e⟩
  · rw [hlook] at h
    cases h
  · rw [hlook] at h
    cases h
  · rw [hlook] at h
    cases e with
    | directory => exact ⟨l, rfl, (Except.ok.inj h).symm⟩
    | _ => cases h

theorem isDirectory_eq_true_iff :
    w.isDirectory path = .ok true ↔ ∃ loc, w.lookUp "stat" true path = .ok (loc, .directory) := by
  rw [isDirectory]
  rcases w.lookUp "stat" true path with e | ⟨loc, e⟩
  · simp [Except.map]
  · cases e <;> simp [Except.map, Entry.isDirectory]

/-- **A path that leads to a directory** is one itself, unless it is a link. -/
theorem eq_directory_of_lookUp_false {operation : String} (hdir : w.isDirectory path = .ok true)
    {loc : Option Location} {e : Entry} (h : w.lookUp operation false path = .ok (loc, e))
    (hlink : ∀ t, e ≠ .link t) : e = .directory := by
  rcases loc with - | l
  · exact eq_directory_of_lookUp_none h
  · obtain ⟨hfind, hget⟩ := lookUp_eq_ok_some_iff.1 h
    have hfind' := find_true_of_false hfind fun t ht ↦ hlink t (Option.some.inj (hget.symm.trans ht))
    have hstat : w.lookUp "stat" true path = .ok (some l, e) := lookUp_eq_ok_some_iff.2 ⟨hfind', hget⟩
    obtain ⟨loc, hloc⟩ := isDirectory_eq_true_iff.1 hdir
    rw [hstat] at hloc
    exact (Prod.mk.inj (Except.ok.inj hloc)).2

end World

end StructuralLint
