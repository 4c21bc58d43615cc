import StructuralLint.Proofs.Files.History
import StructuralLint.Proofs.Files.Input

/-!
# The file behind a walked name

A walk below a relative argument lists paths that start from the base directory. Expansion gives each of
them a name relative to the base directory; the name is resolved later, through its absolute path, and
that is what is opened. So a file goes through three texts, and two steps have to lead back to it.

* From the path to the name and back, by text alone: `exists_found` says that there is a name and that it
  resolves to the absolute form of the path.
* From the path to its absolute form. The path is followed from the working directory and the absolute
  form from the root. That is the same thing if the working directory is called by its location, which
  contains no links: each `..` at the front of the path takes a name off it (`follow_absolute`). What follows
  a path may be the relation without limits (`leadsAbsolutely`) or the look-up (`find_absolute_eq`). The
  system refuses long texts, so the look-ups agree as far as it accepts both.

`walked_name_resolves` puts them together. The second step is not one of texts: where `PWD` calls the
working directory by a link, going up takes a name off the link, and the file that is opened is not the one
that was walked (`walked_name_opens_another`). What has to lead back is the absolute form of the argument; the
paths below it follow (`LeadsAbsolutely.below`).
-/

namespace StructuralLint

/-! ### From the working directory to the root -/

namespace FileSystem

variable {fs : FileSystem} {dir target : Location} {name : Text} {rest parts : List Text}

/-- **Names lead from a location to the entry below it**, unless that is a link. -/
theorem WellFormed.leads_below (h : fs.WellFormed) {l n : Location} {e : Entry}
    (he : fs.get? (l ++ n) = some e) (hlink : ∀ t, e ≠ .link t) : fs.Leads l n (l ++ n) := by
  induction n using List.reverseRecOn generalizing e with
  | nil =>
    rw [List.append_nil]
    exact .nil
  | append_singleton n name ih =>
    have hname := h.isName_of_get?_append he name (by simp)
    rw [← List.append_assoc] at he ⊢
    have hdir := h.get?_of_append (List.cons_ne_nil name []) he
    exact (ih hdir fun t ↦ by simp).concat hdir hname he hlink

/-- A directory is reached from the root by its location. -/
theorem WellFormed.leads_directory (h : fs.WellFormed) (hdir : fs.get? dir = some .directory) :
    fs.Leads [] dir dir :=
  h.leads_below (l := []) hdir fun t ↦ by simp

theorem WellFormed.leads_append_directory_iff (h : fs.WellFormed)
    (hdir : fs.get? dir = some .directory) :
    fs.Leads [] (dir ++ rest) target ↔ fs.Leads dir rest target := by
  rw [leads_append_iff]
  constructor
  · rintro ⟨between, hbetween, hrest⟩
    rwa [← hbetween.unique (h.leads_directory hdir)]
  · exact fun hrest ↦ ⟨dir, h.leads_directory hdir, hrest⟩

theorem leads_up_iff (hdir : fs.get? dir = some .directory) :
    fs.Leads dir (Path.up :: rest) target ↔ fs.Leads dir.dropLast rest target := by
  refine ⟨fun h ↦ ?_, .up hdir⟩
  cases h with
  | up _ h => exact h
  | entry _ _ hne => exact absurd rfl hne
  | link _ _ hne => exact absurd rfl hne

theorem followSteps_up {follow : Bool} {links : ℕ} (hdir : fs.get? dir = some .directory) :
    fs.followSteps follow links dir (Path.up :: rest) =
      fs.followSteps follow links dir.dropLast rest := by
  have hhere : Path.up ≠ Path.here := by decide
  rw [followSteps, if_neg (not_not.2 hdir), if_neg hhere, if_pos rfl]

/-- A look-up from the root passes through a directory, if the system accepts the names on the way. -/
theorem WellFormed.followSteps_append_directory (h : fs.WellFormed) {follow : Bool} {links : ℕ}
    (hdir : fs.get? dir = some .directory) (hsize : ∀ name ∈ dir, name.size ≤ nameLimit) :
    fs.followSteps follow links [] (dir ++ rest) = fs.followSteps follow links dir rest := by
  induction dir using List.reverseRecOn generalizing rest with
  | nil => rfl
  | append_singleton dir name ih =>
    have hparent := h.get?_of_append (List.cons_ne_nil name []) hdir
    have hname := h.isName_of_get?_append hdir name (List.mem_singleton_self name)
    rw [List.append_assoc, List.singleton_append,
      ih hparent fun n hn ↦ hsize n (List.mem_append_left _ hn), followSteps,
      if_neg (not_not.2 hparent), if_neg hname.ne_here, if_neg hname.ne_up,
      if_neg (Nat.not_lt.2 (hsize name (by simp))), hdir]

/-- **A path from a directory and its absolute form**: `F` follows components from a place, which may be
by any means that go up from a directory and pass through one. -/
theorem WellFormed.follow_absolute {α : Sort*} (h : fs.WellFormed) (F : Location → List Text → α)
    (hup : ∀ {dir rest}, fs.get? dir = some .directory → F dir (Path.up :: rest) = F dir.dropLast rest)
    (hparts : Path.IsNormal ⟨false, parts⟩) (hdir : fs.get? dir = some .directory)
    (hdown : ∀ {dir' rest}, fs.get? dir' = some .directory →
      (parts.foldl (Path.push true) dir.reverse).reverse = dir' ++ rest →
        F [] (dir' ++ rest) = F dir' rest) :
    F [] (parts.foldl (Path.push true) dir.reverse).reverse = F dir parts := by
  induction parts generalizing dir with
  | nil =>
    have hself : dir.reverse.reverse = dir ++ [] := by simp
    rw [List.foldl_nil, hself, hdown hdir hself]
  | cons part parts ih =>
    have hnames : ∀ name ∈ dir, Path.IsName name := h.isName_of_get?_append (l := []) hdir
    obtain rfl | hpart := hparts.eq_up_or_isName part List.mem_cons_self
    · -- going up takes the last name off the directory
      have hpush : Path.push true dir.reverse Path.up = dir.dropLast.reverse := by
        rcases List.eq_nil_or_concat' dir with rfl | ⟨dir, name, rfl⟩
        · rfl
        · rw [List.reverse_concat, List.dropLast_concat,
            Path.push_up_cons_of_ne (hnames name (by simp)).ne_up]
      have hparent : fs.get? dir.dropLast = some .directory := by
        rcases List.eq_nil_or_concat' dir with rfl | ⟨dir, name, rfl⟩
        · rfl
        · rw [List.dropLast_concat]
          exact h.get?_of_append (List.cons_ne_nil name []) hdir
      have hparts' : Path.IsNormal ⟨false, [] ++ parts⟩ :=
        .of_forall_up_append (A := [Path.up]) (by simp) hparts
      rw [List.foldl_cons, hpush] at hdown ⊢
      rw [hup hdir, ih hparts' hparent hdown]
    · -- behind a name there are only names
      have hrest : ∀ name ∈ part :: parts, Path.IsName name := by
        intro name hname
        refine (hparts.eq_up_or_isName name hname).resolve_left ?_
        rintro rfl
        obtain ⟨A, B, hAB⟩ := List.append_of_mem hname
        have hA := (hparts.up_front A B hAB).2
        rcases A with - | ⟨a, A⟩
        · exact hpart.ne_up (List.cons.inj hAB).1
        · exact hpart.ne_up ((List.cons.inj hAB).1.trans (hA a List.mem_cons_self))
      have hfold : ((part :: parts).foldl (Path.push true) dir.reverse).reverse = dir ++ part :: parts := by
        rw [Path.foldl_push_of_forall_isName hrest, List.reverse_append, List.reverse_reverse,
          List.reverse_reverse]
      rw [hfold, hdown hdir hfold]

/-- **The system accepts a path**, as far as its text goes: there is no zero byte in it, and neither the
path nor a name is too long. -/
structure AcceptsText (path : Text) : Prop where
  /-- There is no zero byte. -/
  no_zero : path.any (Rune.isChar '\x00') = false
  /-- The path is not too long. -/
  size_lt : path.size < pathLimit
  /-- No name is too long. -/
  part_size_le : ∀ part ∈ (Path.ofText path).parts, part.size ≤ nameLimit

/-- A clean path is followed by its components; the text of an empty one stays where it is. -/
theorem followSteps_text {p : Path} (hp : p.IsNormal) {follow : Bool} {links : ℕ}
    (hdir : fs.get? dir = some .directory) :
    fs.followSteps follow links dir (steps p.text) = fs.followSteps follow links dir p.parts := by
  by_cases hne : p.parts = []
  · obtain ⟨r, parts⟩ := p
    obtain rfl : parts = [] := hne
    have hsteps : steps (Path.text ⟨r, []⟩) = [Path.here] := by cases r <;> rfl
    simp only [hsteps, followSteps, hdir, ne_eq, not_true_eq_false, if_false, if_true]
  · have hparts : ∀ part ∈ p.parts, part ≠ [] := fun part ↦ hp.ne_nil
    have hlast : ((if p.isRooted then [[]] else []) ++ p.parts).getLast? ≠ some [] := by
      rw [List.getLast?_append_of_ne_nil _ hne]
      exact fun h ↦ hparts [] (List.mem_of_getLast? h) rfl
    have hself : p.parts.filter (· ≠ []) = p.parts :=
      List.filter_eq_self.2 fun part hpart ↦ by simpa using hparts part hpart
    have hfilter : ((if p.isRooted then [[]] else []) ++ p.parts).filter (· ≠ []) = p.parts := by
      rw [List.filter_append, hself]
      cases p.isRooted <;> rfl
    rw [steps, Path.splitOn_text hp hne, if_neg hlast, List.append_nil, hfilter]

/-- There is always a component to follow. -/
theorem steps_ne_nil (path : Text) : steps path ≠ [] := by
  rw [steps]
  by_cases hlast : (Text.splitOn '/' path).getLast? = some []
  · simp [hlast]
  · obtain ⟨parts, part, hparts⟩ : ∃ parts part, Text.splitOn '/' path = parts ++ [part] := by
      rw [Text.splitOn_eq]
      exact (List.eq_nil_or_concat' _).resolve_left (List.splitOn_ne_nil _ _)
    rw [hparts, List.getLast?_concat] at hlast
    rw [hparts]
    simp_all

/-- Components are followed from a directory. -/
theorem get?_of_followSteps {follow : Bool} {links : ℕ} (hparts : parts ≠ [])
    (h : fs.followSteps follow links dir parts = .ok target) : fs.get? dir = some .directory := by
  rcases parts with - | ⟨part, parts⟩
  · exact absurd rfl hparts
  · by_contra hdir
    rw [followSteps, if_pos hdir] at h
    cases h

end FileSystem

namespace World

variable {w : World} {path base key : Text} {l n : Location}

theorem isNormal_parts_ofText (path : Text) : Path.IsNormal ⟨false, (Path.ofText path).parts⟩ := by
  have hnormal : Path.IsNormal ⟨_, [] ++ (Path.ofText path).parts⟩ := Path.isNormal_ofText path
  exact .of_forall_up_append (U := []) (by simp) hnormal

/-- **A look-up by a clean path** that the system accepts follows its components. -/
theorem find_eq_map_followSteps {start : Location} (hclean : path = (Path.ofText path).text)
    (haccepts : FileSystem.AcceptsText path) (hstart : w.start? (Path.isAbsolute path) = some start)
    (hdir : w.files.get? start = some .directory) (follow : Bool) :
    w.find follow path = (w.files.followSteps follow FileSystem.linkLimit start
      (Path.ofText path).parts).map some := by
  have hnormal := Path.isNormal_ofText path
  have hne : ¬ path.isEmpty = true := by
    rw [List.isEmpty_iff, hclean]
    exact Path.text_ne_nil hnormal
  rw [← FileSystem.followSteps_text hnormal hdir, ← hclean, find, haccepts.no_zero,
    if_neg Bool.false_ne_true, if_neg hne, if_neg (Nat.not_le.2 haccepts.size_lt)]
  rw [start?] at hstart
  by_cases hpath : Path.isAbsolute path = true
  · rw [if_pos hpath, Option.some.injEq] at hstart
    simp only [hpath, if_true, hstart]
  · rw [if_neg hpath] at hstart
    simp only [hpath, Bool.false_eq_true, if_false, hstart]

/-- The components that come before those of a path in its absolute form. -/
def front (w : World) (isRooted : Bool) : List Text :=
  if isRooted then [] else (w.workingDirectoryName?.map fun name ↦ (Path.ofText name).parts).getD []

/-- **The absolute form of a path** goes on from the front, by text alone. The path is clean, or has a
root and is cleaned. -/
theorem ofText_absolute (hclean : Path.isAbsolute path = true ∨ path = (Path.ofText path).text)
    (hkey : w.absolute path = .ok key) :
    key = (Path.ofText key).text ∧ Path.ofText key = ⟨true, ((Path.ofText path).parts.foldl
      (Path.push true) (w.front (Path.isAbsolute path)).reverse).reverse⟩ := by
  rw [absolute] at hkey
  by_cases hpath : Path.isAbsolute path = true
  · rw [if_pos hpath, Except.ok.injEq] at hkey
    subst hkey
    have hnormal := Path.isNormal_ofText path
    have hroot : (Path.ofText path).isRooted = true := hpath
    rw [Path.ofText_clean, front, if_pos hpath]
    have hfold := Path.foldl_push_of_isNormal (r := true) (A := []) (B := (Path.ofText path).parts)
      (by rwa [← hroot])
    rw [hfold, List.nil_append, List.reverse_reverse, ← hroot]
    exact ⟨rfl, rfl⟩
  · rw [if_neg hpath] at hkey
    rw [front, if_neg hpath]
    rcases hname : w.workingDirectoryName? with - | name
    · rw [hname] at hkey
      cases hkey
    · rw [hname, Except.ok.injEq] at hkey
      subst hkey
      have hroot := isAbsolute_of_workingDirectoryName? hname
      have hne : name ≠ [] := by
        rintro rfl
        cases hroot
      refine ⟨Path.join_eq_text (Or.inl hne), ?_⟩
      rw [Path.ofText_join (by simpa using hpath), hroot, hclean.resolve_left hpath,
        Path.foldl_push_splitOn_text (Path.isNormal_ofText path), ← hclean.resolve_left hpath]
      rfl

/-- **The absolute form of a path below a path** ends with the names that lead there. -/
theorem ofText_absolute_below (hclean : Path.isAbsolute path = true ∨ path = (Path.ofText path).text)
    (hn : ∀ name ∈ n, Path.IsName name) (hpath : w.absolute path = .ok base)
    (hkey : w.absolute (Path.below path n) = .ok key) :
    Path.ofText key = ⟨true, (Path.ofText base).parts ++ n⟩ := by
  obtain ⟨-, hbase⟩ := ofText_absolute hclean hpath
  obtain ⟨-, hbelow⟩ := ofText_absolute (.inr (Path.below_eq_text path hn)) hkey
  rw [hbelow, hbase, Path.ofText_below path hn, Path.isAbsolute_below path hn, List.foldl_append,
    Path.foldl_push_of_forall_isName hn, List.reverse_append, List.reverse_reverse]

/-- **The absolute form of a path leads where the path does.** -/
def LeadsAbsolutely (w : World) (path : Text) : Prop :=
  ∀ key, w.absolute path = .ok key → ∀ l, w.LeadsTo (Path.ofText key) l ↔ w.LeadsTo (Path.ofText path) l

/-- What has a path below it has an absolute form itself. -/
theorem exists_absolute_of_below (hn : ∀ name ∈ n, Path.IsName name)
    (hkey : w.absolute (Path.below path n) = .ok key) : ∃ base, w.absolute path = .ok base := by
  rw [absolute, Path.isAbsolute_below path hn] at hkey
  rw [absolute]
  split
  · exact ⟨_, rfl⟩
  · next hpath =>
    rw [if_neg hpath] at hkey
    rcases hname : w.workingDirectoryName? with - | name
    · rw [hname] at hkey
      cases hkey
    · exact ⟨_, rfl⟩

/-- A path is followed before what stands behind it. -/
theorem leadsTo_append_iff {p : Path} : w.LeadsTo ⟨p.isRooted, p.parts ++ n⟩ l ↔
    ∃ m, w.LeadsTo p m ∧ w.files.Leads m n l := by
  simp only [LeadsTo, FileSystem.leads_append_iff]
  constructor
  · rintro ⟨start, hstart, m, hm, hn⟩
    exact ⟨m, ⟨start, hstart, hm⟩, hn⟩
  · rintro ⟨m, ⟨start, hstart, hm⟩, hn⟩
    exact ⟨start, hstart, m, hm, hn⟩

/-- If this is so for a path, it is so for all that is below it. -/
theorem LeadsAbsolutely.below (h : w.LeadsAbsolutely path)
    (hclean : Path.isAbsolute path = true ∨ path = (Path.ofText path).text)
    (hn : ∀ name ∈ n, Path.IsName name) : w.LeadsAbsolutely (Path.below path n) := by
  intro key hkey l
  obtain ⟨base, hbase⟩ := exists_absolute_of_below hn hkey
  have hroot : (Path.ofText base).isRooted = true := isAbsolute_of_absolute hbase
  rw [ofText_absolute_below hclean hn hbase hkey, Path.ofText_below path hn, ← hroot,
    ← Path.isRooted_ofText path, leadsTo_append_iff, leadsTo_append_iff]
  simp only [h base hbase]

/-- This is so where a look-up finds the same by a clean path and by its absolute form. -/
theorem leadsAbsolutely_of_find {m : Location} (hclean : path = (Path.ofText path).text)
    (hkey : w.absolute path = .ok key) (hfind : w.find true path = .ok (some m))
    (hfindKey : w.find true key = .ok (some m)) : w.LeadsAbsolutely path := by
  intro key' hkey' l
  obtain rfl := Except.ok.inj (hkey.symm.trans hkey')
  have hpath := leadsTo_ofText hfind (.inl hclean)
  have habsolute := leadsTo_ofText hfindKey (.inl (ofText_absolute (.inr hclean) hkey).1)
  constructor
  · exact fun h ↦ h.unique habsolute ▸ hpath
  · exact fun h ↦ h.unique hpath ▸ habsolute

/-- **The working directory is called by its location**: `PWD` says nothing, or just that. -/
def IsCalledByLocation (w : World) : Prop :=
  w.workingDirectoryName? = w.workingDirectory.map fun dir ↦ Path.text ⟨true, dir⟩

section Absolute

-- a clean path that starts from a directory, and its absolute form
variable (hfiles : w.files.WellFormed) (hcalled : w.IsCalledByLocation) {start : Location}
  (hstart : w.start? (Path.isAbsolute path) = some start)
  (hdir : w.files.get? start = some .directory) (hclean : path = (Path.ofText path).text)
include hfiles hcalled hstart hdir

/-- The front is where the path starts. -/
theorem front_eq : w.front (Path.isAbsolute path) = start := by
  rw [front]
  rw [start?] at hstart
  by_cases hpath : Path.isAbsolute path = true
  · rw [if_pos hpath] at hstart ⊢
    exact Option.some.inj hstart
  · rw [if_neg hpath] at hstart ⊢
    have hroot : Path.IsNormal ⟨true, start⟩ :=
      (Path.IsNormal.nil true).append (hfiles.isName_of_get?_append (l := []) hdir)
    rw [hcalled, hstart]
    exact congrArg Path.parts (Path.ofText_text hroot)

include hclean

/-- **A path and its absolute form lead to the same location.** -/
theorem leadsAbsolutely : w.LeadsAbsolutely path := by
  intro key hkey l
  obtain ⟨-, hparts⟩ := ofText_absolute (.inr hclean) hkey
  rw [front_eq hfiles hcalled hstart hdir] at hparts
  have hsame : w.files.Leads [] (Path.ofText key).parts l =
      w.files.Leads start (Path.ofText path).parts l := by
    rw [hparts]
    exact hfiles.follow_absolute (fun place parts ↦ w.files.Leads place parts l)
      (fun hdir ↦ propext (FileSystem.leads_up_iff hdir)) (isNormal_parts_ofText path) hdir
      fun hdir _ ↦ propext (hfiles.leads_append_directory_iff hdir)
  have hroot : w.start? (Path.ofText key).isRooted = some [] := by
    rw [hparts, start?, if_pos rfl]
  rw [LeadsTo, LeadsTo, hroot, Path.isRooted_ofText, hstart]
  simp only [Option.some.injEq, exists_eq_left', hsame]

/-- **A look-up finds the same** by a path and by its absolute form, if the system accepts both. -/
theorem find_absolute_eq (hkey : w.absolute path = .ok key) (hkeyText : FileSystem.AcceptsText key)
    (hpathText : FileSystem.AcceptsText path) (follow : Bool) :
    w.find follow key = w.find follow path := by
  obtain ⟨hkeyClean, hparts⟩ := ofText_absolute (.inr hclean) hkey
  rw [front_eq hfiles hcalled hstart hdir] at hparts
  have hroot : w.start? (Path.isAbsolute key) = some [] := by
    rw [isAbsolute_of_absolute hkey, start?, if_pos rfl]
  rw [find_eq_map_followSteps hkeyClean hkeyText hroot rfl,
    find_eq_map_followSteps hclean hpathText hstart hdir, hparts]
  refine congrArg (Except.map some) (hfiles.follow_absolute
    (fun place parts ↦ w.files.followSteps follow FileSystem.linkLimit place parts)
    FileSystem.followSteps_up (isNormal_parts_ofText path) hdir fun hdir' hsplit ↦ ?_)
  -- what is passed through from the root is a part of the absolute form
  refine hfiles.followSteps_append_directory hdir' fun name hname ↦ hkeyText.part_size_le name ?_
  rw [hparts, hsplit]
  exact List.mem_append_left _ hname

end Absolute

/-! ### Walks -/

/-- **A walk from a clean path lists what is below it.** -/
theorem exists_below_of_mem_walk (hfiles : w.files.WellFormed)
    (hpath : path = (Path.ofText path).text) (h : w.walk path = .ok paths) :
    ∀ q ∈ paths, ∃ n, (∀ name ∈ n, Path.IsName name) ∧ q = Path.below path n := by
  refine forall_mem_walk ?_ ⟨[], by simp, ?_⟩ h
  · rintro q l ⟨n, hn, rfl⟩ child hchild
    have hget := (hfiles.get?_eq_some_iff (by simp)).2 (FileSystem.mem_children.1 hchild)
    have hname := hfiles.isName_of_get?_append hget child.1 (List.mem_singleton_self _)
    exact ⟨n ++ [child.1], by simpa [or_imp, forall_and] using ⟨hn, hname⟩, Path.join_below path hn hname⟩
  · rw [Path.below, List.append_nil]
    exact hpath

/-- What is found is found from a directory. -/
theorem exists_start_of_find {follow : Bool} (h : w.find follow path = .ok (some l)) :
    ∃ start, w.start? (Path.isAbsolute path) = some start ∧
      w.files.get? start = some .directory := by
  obtain ⟨-, start, hstart, hfollow⟩ := find_eq_ok_some_iff.1 h
  exact ⟨start, hstart, FileSystem.get?_of_followSteps (FileSystem.steps_ne_nil path) hfollow⟩

/-- **A walk starts from a directory**, whether it starts at one or not. -/
theorem exists_start_of_walk {paths : List Text} (h : w.walk path = .ok paths) :
    ∃ start, w.start? (Path.isAbsolute path) = some start ∧
      w.files.get? start = some .directory := by
  obtain ⟨- | l, e, hstat, hwalk⟩ := exists_of_walk h
  · -- the removed working directory cannot be read
    obtain rfl := eq_directory_of_lookUp_none hstat
    obtain ⟨entries, -, hread, -⟩ := exists_of_walkFrom_directory hwalk
    obtain ⟨l, hopen, -⟩ := exists_of_readDirectory hread
    exact exists_start_of_find (lookUp_eq_ok_some_iff.1 hopen).1
  · exact exists_start_of_find (lookUp_eq_ok_some_iff.1 hstat).1

theorem ne_nil_of_walk {paths : List Text} (h : w.walk path = .ok paths) : path ≠ [] := by
  rintro rfl
  cases h

end World

/-! ### Names of walked paths -/

namespace FileLinter

/-- **A name opens a path**: its lines are those of what is found there, and that is what is linted,
unless it was visited before. -/
structure Opens (f : FileLinter) (w : World) (name path : Text) : Prop where
  /-- Lines are read from there. -/
  readLines_eq_ok_iff : ∀ lines, f.readLines w name = .ok lines ↔
    ∃ source, w.openFile path = .ok source ∧ source.read = (lines, none)
  /-- If it cannot be opened, no lines are read. -/
  readLines_unopened_iff : ∀ e, f.readLines w name = .error (.unopened e) ↔
    w.openFile path = .error e
  /-- It is linted there. -/
  lintFile_eq : path ∉ f.visited → (f.lintFile w name).2 = (f.lintAt w name path).map (·.1)

variable {f : FileLinter} {w : World} {name path : Text}

/-- **A name opens the path it resolves to.** -/
theorem opens_of_resolve (h : f.options.resolve w name = .ok path) : f.Opens w name path := by
  have hlines : (∀ lines, f.readLines w name = .ok lines ↔
        ∃ source, w.openFile path = .ok source ∧ source.read = (lines, none)) ∧
      ∀ e, f.readLines w name = .error (.unopened e) ↔ w.openFile path = .error e := by
    rw [readLines, h]
    rcases hopen : w.openFile path with e | source
    · simp [hopen]
    · rcases hread : source.read with ⟨lines, - | e⟩ <;> simp [hopen, hread]
  refine ⟨hlines.1, hlines.2, fun hnew ↦ ?_⟩
  obtain ⟨e, herror, -⟩ | ⟨path', hpath', hcall⟩ := f.lintFile_cases w name
  · rw [h] at herror
    cases herror
  · obtain rfl : path' = path := Except.ok.inj (hpath'.symm.trans h)
    obtain ⟨hmem, -⟩ | ⟨-, hcall⟩ := hcall
    · exact absurd hmem hnew
    · rw [hcall]

end FileLinter

namespace FileOptions

variable {o : FileOptions} {w : World}

/-- What a walk of a directory argument lists is always a candidate. -/
theorem exists_found_of_mem_walk (hfiles : w.files.WellFormed) {argument path : Text}
    {paths : List Text} (hargument : Path.isAbsolute argument = false)
    (hwalk : w.walk (o.join argument) = .ok paths) (hpath : path ∈ paths) :
    path = (Path.ofText path).text ∧ ∃ start c, w.start? (Path.isAbsolute path) = some start ∧
      w.files.get? start = some .directory ∧ o.found w argument path = .ok c ∧
      o.Found w argument path c := by
  have hclean : o.join argument = _ :=
    join_eq_text (by simp [hargument]) (World.ne_nil_of_walk hwalk)
  obtain ⟨start, hstart, hdir⟩ := World.exists_start_of_walk hwalk
  obtain ⟨n, hn, rfl⟩ := World.exists_below_of_mem_walk hfiles hclean hwalk path hpath
  obtain ⟨c, hfound, hc⟩ : ∃ c, o.found w argument (Path.below (o.join argument) n) = .ok c ∧ _ :=
    exists_found hstart hn
  refine ⟨Path.below_eq_text _ hn, start, c, ?_, hdir, hfound, hc⟩
  rw [Path.isAbsolute_below _ hn, hstart]

/-- **No file that is found lacks a name.** -/
theorem found_ne_notRelative (hfiles : w.files.WellFormed) {argument path target base : Text}
    {paths : List Text} (hwalk : w.walk (o.join argument) = .ok paths) (hpath : path ∈ paths) :
    o.found w argument path ≠ .error (.notRelative target base) := by
  rcases hargument : Path.isAbsolute argument with - | -
  · obtain ⟨-, start, c, -, -, hfound, -⟩ := exists_found_of_mem_walk hfiles hargument hwalk hpath
    rw [hfound]
    simp
  · have hname : o.foundName argument path = .ok path := if_pos hargument
    rw [found, hname]
    rcases hkey : o.resolve w path with e | key <;>
      simp [bind, Except.bind, Except.mapError, pure, Except.pure, hkey]

theorem candidates_ne_notRelative (hfiles : w.files.WellFormed) {a argument target base : Text} :
    o.candidates w a ≠ .error (.walk argument (.notRelative target base)) := by
  intro h
  rw [candidates] at h
  split at h
  · cases h
  · split at h
    · cases h
    · rcases hbelow : o.foundBelow w a with e | cs
      · rw [hbelow] at h
        cases h
        rw [foundBelow] at hbelow
        rcases hwalk : w.walk (o.join a) with e | paths
        · rw [hwalk] at hbelow
          cases hbelow
        · rw [hwalk] at hbelow
          obtain ⟨path, hpath, hfound⟩ := exists_of_mapM_eq_error hbelow
          exact found_ne_notRelative hfiles hwalk (List.mem_of_mem_filter hpath) hfound
      · rw [hbelow] at h
        cases h
    · split at h <;> cases h

/-- **Names of walked paths lead back**, as far as texts go. Whatever the base directory and a relative
argument are:

* each path below the argument has a name relative to the base directory, and resolving the name gives
  the absolute form of the path;
* a walk lists such paths only, and each is a candidate under its name and its absolute form. With the
  same options the name opens the absolute form;
* so no expansion fails for want of a name.

The walk follows the path and opening follows its absolute form. If the absolute form of the argument
leads where the argument does, then so do those of all paths below it, and what is found there, if the system
finds anything, is what the walk has found. This is the case for every argument if the working directory is
called by its location; then a look-up by the path and one by its absolute form give the same, as far as
the system accepts both texts. -/
theorem walked_name_resolves (o : FileOptions) :
    (∀ argument n, Path.isAbsolute argument = false → (∀ part ∈ n, Path.IsName part) →
      ∃ name, Path.relative? o.baseDir (Path.below (o.join argument) n) = some name ∧
        ∀ w, o.resolve w name =
          (w.absolute (Path.below (o.join argument) n)).mapError .unresolved) ∧
    (∀ w : World, w.files.WellFormed → ∀ argument paths, Path.isAbsolute argument = false →
      w.walk (o.join argument) = .ok paths → ∀ path ∈ paths,
        (∃ n, (∀ part ∈ n, Path.IsName part) ∧ path = Path.below (o.join argument) n) ∧
        ∃ name key, Path.relative? o.baseDir path = some name ∧
          o.found w argument path = .ok ⟨key, name⟩ ∧
          w.absolute path = .ok key ∧ o.resolve w name = .ok key ∧
          (∀ f : FileLinter, f.options = o → f.Opens w name key) ∧
          (w.LeadsAbsolutely (o.join argument) → ∀ l,
            (w.LeadsTo (Path.ofText key) l ↔ w.LeadsTo (Path.ofText path) l) ∧
            (w.find true key = .ok (some l) → w.LeadsTo (Path.ofText path) l)) ∧
          (w.IsCalledByLocation → w.LeadsAbsolutely (o.join argument) ∧
            (FileSystem.AcceptsText key → FileSystem.AcceptsText path →
              ∀ follow, w.find follow key = w.find follow path))) ∧
    ∀ w : World, w.files.WellFormed → ∀ arguments argument target base,
      o.expand w arguments ≠ .error (.walk argument (.notRelative target base)) := by
  refine ⟨fun argument n hargument hn ↦ ?_, fun w hfiles argument paths hargument hwalk path hpath ↦ ?_,
    fun w hfiles arguments argument target base h ↦ ?_⟩
  · obtain ⟨name, -, hname, hjoin⟩ := o.exists_foundName argument hn
    rw [hargument, if_neg Bool.false_ne_true] at hname
    exact ⟨name, hname, fun w ↦ by rw [resolve, hjoin]⟩
  · obtain ⟨hclean, start, c, hstart, hdir, hfound, hc⟩ :=
      exists_found_of_mem_walk hfiles hargument hwalk hpath
    have hrelative := hc.name_eq
    rw [hargument, if_neg Bool.false_ne_true] at hrelative
    have hjoin : o.join argument = (Path.ofText (o.join argument)).text :=
      join_eq_text (by simp [hargument]) (World.ne_nil_of_walk hwalk)
    obtain ⟨n, hn, hbelow⟩ := World.exists_below_of_mem_walk hfiles hjoin hwalk path hpath
    refine ⟨⟨n, hn, hbelow⟩, c.name, c.key, hrelative, hfound, hc.absolute_eq, hc.resolve_name, ?_,
      fun hleads l ↦ ?_, fun hcalled ↦ ⟨?_, ?_⟩⟩
    · rintro f rfl
      exact FileLinter.opens_of_resolve hc.resolve_name
    · have hiff := hbelow ▸ hleads.below (.inr hjoin) hn
      have hkey := hc.absolute_eq
      exact ⟨hiff c.key hkey l, fun hfind ↦ (hiff c.key hkey l).1
        (World.leadsTo_ofText hfind (.inl (World.ofText_absolute (.inr hclean) hkey).1))⟩
    · rw [hbelow, Path.isAbsolute_below _ hn] at hstart
      exact World.leadsAbsolutely hfiles hcalled hstart hdir hjoin
    · exact World.find_absolute_eq hfiles hcalled hstart hdir hclean hc.absolute_eq
  · rw [expand] at h
    rcases hall : arguments.mapM (o.candidates w) with e | lists
    · rw [hall] at h
      cases h
      obtain ⟨a, -, ha⟩ := exists_of_mapM_eq_error hall
      exact candidates_ne_notRelative hfiles ha
    · rw [hall] at h
      cases h

/-- A working directory `u` with a base directory, and a directory of files and a link to `u` beside it. -/
def beside (environment : List (Text × Text)) : World where
  files := ⟨[([Text.ofString "u"], .directory), ([Text.ofString "e"], .directory),
    ([Text.ofString "e", Text.ofString "x.yaml"], .file []),
    ([Text.ofString "v"], .link (Text.ofString "u"))]⟩
  workingDirectory := some [Text.ofString "u"]
  environment

/-- Options with a base directory that is not clean. -/
def baseBeside : FileOptions where
  baseDir := Text.ofString "..//b/."

/-- The walk climbs above the working directory and the name above the base directory. Both end at the same
file if `PWD` calls the working directory `v`, and a look-up finds it by both if `PWD` says nothing. -/
theorem walked_name_resolves_beside :
    (∃ name key, Path.relative? baseBeside.baseDir (Text.ofString "../e/x.yaml") = some name ∧
      baseBeside.resolve (beside [(Text.ofString "PWD", Text.ofString "/v")]) name = .ok key ∧
      FileLinter.Opens { options := baseBeside } (beside [(Text.ofString "PWD", Text.ofString "/v")]) name
        key ∧
      (beside [(Text.ofString "PWD", Text.ofString "/v")]).LeadsTo
        (Path.ofText (Text.ofString "../e/x.yaml")) [Text.ofString "e", Text.ofString "x.yaml"]) ∧
    ∃ name key, baseBeside.resolve (beside []) name = .ok key ∧
      (beside []).find true key = (beside []).find true (Text.ofString "../e/x.yaml") := by
  obtain ⟨-, hwalked, -⟩ := walked_name_resolves baseBeside
  constructor
  · obtain ⟨-, name, key, hname, -, hkey, hresolve, hopens, hleads, -⟩ := hwalked
      (beside [(Text.ofString "PWD", Text.ofString "/v")]) ⟨by decide, by decide, by decide, by decide⟩
      (Text.ofString ".././e/") [Text.ofString "../e/x.yaml"] (by decide) (by cbv)
      (Text.ofString "../e/x.yaml") (by simp)
    have hkey' : (beside [(Text.ofString "PWD", Text.ofString "/v")]).absolute
        (Text.ofString "../e/x.yaml") = .ok (Text.ofString "/e/x.yaml") := by cbv
    obtain rfl := Except.ok.inj (hkey.symm.trans hkey')
    have hargument : (beside [(Text.ofString "PWD", Text.ofString "/v")]).absolute
        (baseBeside.join (Text.ofString ".././e/")) = .ok (Text.ofString "/e") := by cbv
    refine ⟨name, _, hname, hresolve, hopens _ rfl, (hleads ?_ _).2 (by cbv)⟩
    exact World.leadsAbsolutely_of_find (m := [Text.ofString "e"]) (by decide) hargument (by cbv) (by cbv)
  · obtain ⟨-, name, key, -, -, hkey, hresolve, -, -, hcalled⟩ := hwalked (beside [])
      ⟨by decide, by decide, by decide, by decide⟩ (Text.ofString ".././e/")
      [Text.ofString "../e/x.yaml"] (by decide) (by cbv) (Text.ofString "../e/x.yaml") (by simp)
    have hkey' : (beside []).absolute (Text.ofString "../e/x.yaml") =
        .ok (Text.ofString "/e/x.yaml") := by cbv
    obtain rfl := Except.ok.inj (hkey.symm.trans hkey')
    exact ⟨name, _, hresolve, (hcalled rfl).2 ⟨by decide, by decide, by decide⟩
      ⟨by decide, by decide, by decide⟩ true⟩

/-- A working directory `r/c` which `PWD` calls `l`, and directories `d` beside both. -/
def detoured : World where
  files := ⟨[([Text.ofString "r"], .directory), ([Text.ofString "r", Text.ofString "c"], .directory),
    ([Text.ofString "r", Text.ofString "d"], .directory),
    ([Text.ofString "r", Text.ofString "d", Text.ofString "x.yaml"], .file (Text.ofString "- a")),
    ([Text.ofString "d"], .directory), ([Text.ofString "d", Text.ofString "x.yaml"], .file []),
    ([Text.ofString "l"], .link (Text.ofString "r/c"))]⟩
  workingDirectory := some [Text.ofString "r", Text.ofString "c"]
  environment := [(Text.ofString "PWD", Text.ofString "/l")]

/-- **A walked name can open another file.** Going up from the working directory is going up from `r/c`, and
the absolute form goes up from `l`. The walk finds a file with an orphan, and the file that is linted under
its name has none. -/
theorem walked_name_opens_another :
    expand {} detoured [Text.ofString "../d"] = .ok [Text.ofString "../d/x.yaml"] ∧
      detoured.find true (Text.ofString "../d/x.yaml") =
        .ok (some [Text.ofString "r", Text.ofString "d", Text.ofString "x.yaml"]) ∧
      resolve {} detoured (Text.ofString "../d/x.yaml") = .ok (Text.ofString "/d/x.yaml") ∧
      detoured.find true (Text.ofString "/d/x.yaml") =
        .ok (some [Text.ofString "d", Text.ofString "x.yaml"]) ∧
      FileLinter.readLines {} detoured (Text.ofString "../d/x.yaml") = .ok [] := by
  refine ⟨by cbv, by cbv, by cbv, by cbv, by cbv⟩

end FileOptions

end StructuralLint
