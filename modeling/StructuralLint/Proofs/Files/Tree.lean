import Mathlib.Data.List.Forall2
import Mathlib.Data.List.Perm.Subperm
import Mathlib.Data.List.Sort
import StructuralLint.Proofs.Files.Lookup

/-!
# Walking a directory

A walk reads a directory, goes through its entries in the order of their names, and walks those that are
directories themselves. It knows paths and not locations: each directory is looked up again by its path,
links and all. The theory has two halves.

* The tree. `walkBelow` is the walk on locations. It comes by the entries below a location that are no
  directories, each of them once, in the order of their names, component by component (`Lists`). This
  holds of every well-formed file system, with enough fuel (`lists_walkBelow`).
* The look-ups. A walk of paths that succeeds is the walk of the location that it starts at, since each
  path that it reads leads to the location it stands for (`walkFrom_eq`).

`exists_lists_of_walk` puts them together: what a successful walk lists is what there is.
-/

namespace StructuralLint

/-! ### Lists of results -/

/-- A list of computations succeeds when each of them does. -/
theorem mapM_eq_ok_iff {α β ε : Type} {f : α → Except ε β} {as : List α} {bs : List β} :
    as.mapM f = .ok bs ↔ List.Forall₂ (fun a b ↦ f a = .ok b) as bs := by
  induction as generalizing bs with
  | nil => cases bs <;> simp [pure, Except.pure]
  | cons a as ih =>
    rw [List.mapM_cons]
    cases hfirst : f a with
    | error e => cases bs <;> simp [bind, Except.bind, hfirst]
    | ok b =>
      cases hrest : as.mapM f with
      | error e => cases bs <;> simp [bind, Except.bind, ← ih, hfirst, hrest]
      | ok cs => cases bs <;> simp [bind, Except.bind, pure, Except.pure, ← ih, hfirst, hrest]

/-- Computations that all succeed give a list of results. -/
theorem exists_mapM_eq_ok {α β ε : Type} {f : α → Except ε β} {R : α → β → Prop} {as : List α}
    (h : ∀ a ∈ as, ∃ b, f a = .ok b ∧ R a b) : ∃ bs, as.mapM f = .ok bs ∧ List.Forall₂ R as bs := by
  induction as with
  | nil => exact ⟨[], rfl, .nil⟩
  | cons a as ih =>
    obtain ⟨b, hb, hR⟩ := h a List.mem_cons_self
    obtain ⟨bs, hbs, hRs⟩ := ih fun a' ha' ↦ h a' (List.mem_cons_of_mem a ha')
    exact ⟨b :: bs, mapM_eq_ok_iff.2 (.cons hb (mapM_eq_ok_iff.1 hbs)), .cons hR hRs⟩

/-- A list of computations fails with the failure of one of them. -/
theorem exists_of_mapM_eq_error {α β ε : Type} {f : α → Except ε β} {as : List α} {e : ε}
    (h : as.mapM f = .error e) : ∃ a ∈ as, f a = .error e := by
  induction as with
  | nil => cases h
  | cons a as ih =>
    rw [List.mapM_cons] at h
    rcases hfirst : f a with e' | b
    · rw [hfirst] at h
      cases h
      exact ⟨a, List.mem_cons_self, hfirst⟩
    · rcases hrest : as.mapM f with e' | bs
      · rw [hfirst, hrest] at h
        cases h
        obtain ⟨a', ha', he⟩ := ih hrest
        exact ⟨a', List.mem_cons_of_mem a ha', he⟩
      · rw [hfirst, hrest] at h
        cases h

/-- Each result is one of some computation. -/
theorem exists_of_forall₂ {α β : Type} {R : α → β → Prop} {as : List α} {bs : List β}
    (h : List.Forall₂ R as bs) {b : β} (hb : b ∈ bs) : ∃ a, R a b := by
  induction h with
  | nil => cases hb
  | cons hR _ ih =>
    rcases List.mem_cons.1 hb with rfl | hb
    · exact ⟨_, hR⟩
    · exact ih hb

namespace FileSystem

/-! ### Well-formed file systems -/

/-- **A well-formed file system**: each location has one entry, every entry is in a directory, and its
location consists of names, as they are read from their bytes. A list of entries that is not well formed
is the state of no file system. -/
structure WellFormed (fs : FileSystem) : Prop where
  /-- Each location has one entry. -/
  nodup : (fs.entries.map (·.1)).Nodup
  /-- What holds an entry is a directory. -/
  parent : ∀ entry ∈ fs.entries, fs.get? entry.1.dropLast = some .directory
  /-- The components of a location are names. -/
  isName : ∀ entry ∈ fs.entries, ∀ name ∈ entry.1, Path.IsName name
  /-- A name is what its bytes are read as. -/
  decoded : ∀ entry ∈ fs.entries, ∀ name ∈ entry.1, Text.ofBytes name.toBytes = name

namespace WellFormed

variable {fs : FileSystem} {l n : Location} {e : Entry} {name : Text}

theorem get?_eq_some_iff (h : fs.WellFormed) (hl : l ≠ []) :
    fs.get? l = some e ↔ (l, e) ∈ fs.entries := by
  have hempty : ¬ l.isEmpty = true := by simpa using hl
  rw [get?, if_neg hempty, List.lookup_eq_some_iff]
  constructor
  · rintro ⟨before, after, hentries, -⟩
    simp [hentries]
  · intro hmem
    obtain ⟨before, after, hentries⟩ := List.append_of_mem hmem
    refine ⟨before, after, hentries, fun entry hentry ↦ ?_⟩
    have hnodup := h.nodup
    rw [hentries, List.map_append, List.map_cons, List.nodup_append] at hnodup
    have hne := hnodup.2.2 entry.1 (List.mem_map_of_mem hentry) l List.mem_cons_self
    simpa using hne.symm

/-- What is above an entry is a directory. -/
theorem get?_of_append (h : fs.WellFormed) (hn : n ≠ []) (hget : fs.get? (l ++ n) = some e) :
    fs.get? l = some .directory := by
  induction n using List.reverseRecOn generalizing e with
  | nil => exact absurd rfl hn
  | append_singleton n name ih =>
    have hmem := (h.get?_eq_some_iff (by simp)).1 hget
    have hparent := h.parent _ hmem
    rw [← List.append_assoc, List.dropLast_concat] at hparent
    by_cases hn : n = []
    · rwa [hn, List.append_nil] at hparent
    · exact ih hn hparent

theorem mem_of_get?_append (h : fs.WellFormed) (hget : fs.get? (l ++ n) = some e)
    (hname : name ∈ n) : (l ++ n, e) ∈ fs.entries :=
  (h.get?_eq_some_iff fun hnil ↦ by simp_all).1 hget

/-- What leads from a location to an entry below it are names. -/
theorem isName_of_get?_append (h : fs.WellFormed) (hget : fs.get? (l ++ n) = some e) :
    ∀ name ∈ n, Path.IsName name := fun name hname ↦
  h.isName _ (h.mem_of_get?_append hget hname) name (List.mem_append_right l hname)

/-- **No location is longer than the list of entries**: the locations above it are entries, too. -/
theorem length_le (h : fs.WellFormed) (hget : fs.get? l = some e) : l.length ≤ fs.entries.length := by
  have habove : ((List.range l.length).map fun i ↦ l.take (i + 1)) ⊆ fs.entries.map (·.1) := by
    intro m hm
    obtain ⟨i, hi, rfl⟩ := List.mem_map.1 hm
    have hne : l.take (i + 1) ≠ [] := by
      intro hnil
      have hlen := congrArg List.length hnil
      simp_all
    obtain ⟨e', he'⟩ : ∃ e', fs.get? (l.take (i + 1)) = some e' := by
      by_cases hdrop : l.drop (i + 1) = []
      · rw [← List.take_append_drop (i + 1) l, hdrop, List.append_nil] at hget
        exact ⟨e, hget⟩
      · rw [← List.take_append_drop (i + 1) l] at hget
        exact ⟨_, h.get?_of_append hdrop hget⟩
    exact List.mem_map_of_mem ((h.get?_eq_some_iff hne).1 he')
  have hnodup : ((List.range l.length).map fun i ↦ l.take (i + 1)).Nodup := by
    refine List.Nodup.map_on (fun i hi j hj hij ↦ ?_) List.nodup_range
    have hlen := congrArg List.length hij
    simp only [List.length_take, List.mem_range] at hlen hi hj
    omega
  simpa using (hnodup.subperm habove).length_le

end WellFormed

/-! ### The entries of a directory -/

variable {fs : FileSystem} {l : Location}

/-- What `children` takes from an entry. -/
theorem child_eq_some_iff {entry : Location × Entry} {child : Text × Entry} :
    (match entry.1.getLast? with
      | some name => if entry.1.dropLast = l then some (name, entry.2) else none
      | none => none) = some child ↔ entry = (l ++ [child.1], child.2) := by
  obtain ⟨k, e⟩ := entry
  obtain ⟨name, e'⟩ := child
  rcases List.eq_nil_or_concat' k with rfl | ⟨k, last, rfl⟩
  · simp
  · simp only [List.getLast?_concat, List.dropLast_concat, Option.ite_none_right_eq_some,
      Option.some.injEq, Prod.mk.injEq, List.append_singleton_inj, and_assoc]

theorem mem_children {child : Text × Entry} :
    child ∈ fs.children l ↔ (l ++ [child.1], child.2) ∈ fs.entries := by
  rw [children, List.mem_mergeSort, List.mem_filterMap]
  constructor
  · rintro ⟨entry, hmem, hentry⟩
    exact child_eq_some_iff.1 hentry ▸ hmem
  · exact fun hmem ↦ ⟨_, hmem, child_eq_some_iff.2 rfl⟩

/-- **The entries of a directory stand in the order of their names**, byte by byte. -/
theorem WellFormed.pairwise_children (h : fs.WellFormed) (l : Location) :
    (fs.children l).Pairwise fun a b ↦ a.1.toBytes < b.1.toBytes := by
  have hle : (fs.children l).Pairwise fun a b ↦ Text.byteLe a.1 b.1 = true := by
    refine List.pairwise_mergeSort (fun a b c hab hbc ↦ ?_) (fun a b ↦ ?_) _
    · simp only [Text.byteLe, Bool.not_eq_true', decide_eq_false_iff_not, List.not_lt] at *
      exact List.le_trans hab hbc
    · simp only [Text.byteLe, Bool.or_eq_true, Bool.not_eq_true', decide_eq_false_iff_not,
        List.not_lt]
      exact List.le_total _ _
  have hne : (fs.children l).Pairwise fun a b ↦ a.1 ≠ b.1 := by
    rw [children, (List.mergeSort_perm _ _).pairwise_iff Ne.symm, List.pairwise_filterMap]
    refine (List.pairwise_map.1 h.nodup).imp fun hlocation a ha b hb hname ↦ hlocation ?_
    rw [child_eq_some_iff.1 ha, child_eq_some_iff.1 hb, hname]
  refine (hle.and hne).imp_of_mem fun {a b} ha hb hab ↦ ?_
  -- names that are read from the same bytes are the same
  have hbytes : a.1.toBytes ≠ b.1.toBytes := by
    intro heq
    rw [← h.decoded _ (mem_children.1 ha) a.1 (by simp),
      ← h.decoded _ (mem_children.1 hb) b.1 (by simp), heq] at hab
    exact hab.2 rfl
  have hnot : ¬ b.1.toBytes < a.1.toBytes := by simpa [Text.byteLe] using hab.1
  exact Std.lt_of_le_of_ne (List.not_lt.1 hnot) hbytes

/-! ### The walk on locations -/

/-- What is below a location and is no directory, depth first: for each, the names that lead to it. An
entry that is no directory leads to itself. -/
def walkBelow (fs : FileSystem) : (fuel : ℕ) → Location → Entry → List Location
  | 0, _, _ => []
  | fuel + 1, l, e =>
    if e.isDirectory then
      (fs.children l).flatMap fun child =>
        (fs.walkBelow fuel (l ++ [child.1]) child.2).map (child.1 :: ·)
    else [[]]

/-- **The files below a location**, in the order of their names: for each, the names that lead to it.
The order compares the first names by their bytes, then the second names, and so on, which is the order
in which a walk comes by. -/
structure Lists (fs : FileSystem) (l : Location) (names : List Location) : Prop where
  /-- All that is below and is no directory is there, and nothing else. -/
  mem_iff : ∀ n, n ∈ names ↔ ∃ e, fs.get? (l ++ n) = some e ∧ e.isDirectory = false
  /-- It is in order, and each once. -/
  ordered : names.Pairwise fun a b ↦ a.map Text.toBytes < b.map Text.toBytes

theorem WellFormed.mem_walkBelow (h : fs.WellFormed) {fuel : ℕ} {e : Entry} {n : Location}
    (he : fs.get? l = some e) :
    n ∈ fs.walkBelow fuel l e ↔ n.length < fuel ∧ ∃ e', fs.get? (l ++ n) = some e' ∧
      e'.isDirectory = false := by
  induction fuel generalizing l e n with
  | zero => simp [walkBelow]
  | succ fuel ih =>
    rw [walkBelow]
    cases n with
    | nil => cases e <;> simp [he, Entry.isDirectory]
    | cons name n =>
      have hchild : ∀ e', (l ++ [name], e') ∈ fs.entries ↔ fs.get? (l ++ [name]) = some e' :=
        fun e' ↦ (h.get?_eq_some_iff (by simp)).symm
      have hassoc : l ++ name :: n = l ++ [name] ++ n := by simp
      by_cases hdir : e.isDirectory = true
      · rw [if_pos hdir, List.length_cons, Nat.add_lt_add_iff_right, hassoc]
        simp only [List.mem_flatMap, List.mem_map, List.cons.injEq, mem_children, Prod.exists]
        constructor
        · rintro ⟨name', e', hmem, n', hn', rfl, rfl⟩
          exact (ih ((hchild e').1 hmem)).1 hn'
        · rintro ⟨hlen, e', he', hfile⟩
          -- the entry of this name is there, as it is above something or is it
          obtain ⟨e'', he''⟩ : ∃ e'', fs.get? (l ++ [name]) = some e'' := by
            by_cases hn : n = []
            · exact ⟨e', by rwa [hn, List.append_nil] at he'⟩
            · exact ⟨_, h.get?_of_append hn he'⟩
          exact ⟨name, e'', (hchild e'').2 he'', n, (ih he'').2 ⟨hlen, e', he', hfile⟩, rfl, rfl⟩
      · rw [if_neg hdir]
        simp only [List.mem_singleton, reduceCtorEq, false_iff, not_and, not_exists]
        intro _ e' he'
        have hdir' := h.get?_of_append (List.cons_ne_nil name n) he'
        rw [he, Option.some.injEq] at hdir'
        exact absurd (hdir' ▸ rfl) hdir

theorem WellFormed.pairwise_walkBelow (h : fs.WellFormed) (fuel : ℕ) (l : Location) (e : Entry) :
    (fs.walkBelow fuel l e).Pairwise fun a b ↦ a.map Text.toBytes < b.map Text.toBytes := by
  induction fuel generalizing l e with
  | zero => exact .nil
  | succ fuel ih =>
    rw [walkBelow]
    split
    · refine List.pairwise_flatMap.2 ⟨fun child _ ↦ ?_, (h.pairwise_children l).imp fun hlt ↦ ?_⟩
      · refine List.pairwise_map.2 ((ih _ _).imp fun hlt ↦ ?_)
        exact List.cons_lt_cons_iff.2 (Or.inr ⟨rfl, hlt⟩)
      · rintro x hx y hy
        obtain ⟨x, -, rfl⟩ := List.mem_map.1 hx
        obtain ⟨y, -, rfl⟩ := List.mem_map.1 hy
        exact List.cons_lt_cons_iff.2 (Or.inl hlt)
    · exact List.pairwise_singleton _ _

/-- **The walk on locations lists what there is**, given fuel for the longest location. -/
theorem WellFormed.lists_walkBelow (h : fs.WellFormed) {e : Entry} (he : fs.get? l = some e) {fuel : ℕ}
    (hfuel : fs.entries.length < fuel) : fs.Lists l (fs.walkBelow fuel l e) := by
  refine ⟨fun n ↦ (h.mem_walkBelow he).trans (and_iff_right_of_imp ?_), h.pairwise_walkBelow fuel l e⟩
  rintro ⟨e', he', -⟩
  have hlen := h.length_le he'
  rw [List.length_append] at hlen
  omega

/-- Nothing is listed twice. -/
theorem Lists.nodup {names : List Location} (h : fs.Lists l names) : names.Nodup := by
  refine h.ordered.imp fun hlt ↦ ?_
  rintro rfl
  exact List.lt_irrefl _ hlt

/-- There is one such list. -/
theorem Lists.unique {A B : List Location} (hA : fs.Lists l A) (hB : fs.Lists l B) : A = B := by
  have : Std.Irrefl fun a b : Location ↦ a.map Text.toBytes < b.map Text.toBytes :=
    ⟨fun _ ↦ List.lt_irrefl _⟩
  have : Std.Antisymm fun a b : Location ↦ a.map Text.toBytes < b.map Text.toBytes :=
    ⟨fun _ _ hab hba ↦ absurd hba (List.lt_asymm hab)⟩
  exact hA.ordered.eq_of_mem_iff hB.ordered fun n ↦ (hA.mem_iff n).trans (hB.mem_iff n).symm

end FileSystem

/-! ### The walk of paths -/

/-- The clean path of what is below a path. -/
def Path.below (path : Text) (n : Location) : Text :=
  Path.text ⟨Path.isAbsolute path, (Path.ofText path).parts ++ n⟩

theorem Path.isNormal_below (path : Text) {n : Location} (hn : ∀ name ∈ n, Path.IsName name) :
    Path.IsNormal ⟨Path.isAbsolute path, (Path.ofText path).parts ++ n⟩ :=
  (Path.isNormal_ofText path).append hn

theorem Path.isAbsolute_below (path : Text) {n : Location} (hn : ∀ name ∈ n, Path.IsName name) :
    Path.isAbsolute (Path.below path n) = Path.isAbsolute path :=
  Path.isAbsolute_text (Path.isNormal_below path hn)

theorem Path.ofText_below (path : Text) {n : Location} (hn : ∀ name ∈ n, Path.IsName name) :
    Path.ofText (Path.below path n) = ⟨Path.isAbsolute path, (Path.ofText path).parts ++ n⟩ :=
  Path.ofText_text (Path.isNormal_below path hn)

theorem Path.below_ne_nil (path : Text) {n : Location} (hn : ∀ name ∈ n, Path.IsName name) :
    Path.below path n ≠ [] :=
  Path.text_ne_nil (Path.isNormal_below path hn)

theorem Path.below_eq_text (path : Text) {n : Location} (hn : ∀ name ∈ n, Path.IsName name) :
    Path.below path n = (Path.ofText (Path.below path n)).text := by
  rw [Path.ofText_below path hn]
  rfl

/-- What is below something below a path is below the path. -/
theorem Path.below_below (path : Text) {m : Location} (hm : ∀ name ∈ m, Path.IsName name)
    (n : Location) : Path.below (Path.below path m) n = Path.below path (m ++ n) := by
  have hm' := Path.ofText_below path hm
  have hroot : Path.isAbsolute (Path.below path m) = Path.isAbsolute path := congrArg isRooted hm'
  rw [Path.below, hroot, hm', List.append_assoc]
  rfl

/-- A name below what is below a path. -/
theorem Path.join_below (path : Text) {n : Location} (hn : ∀ name ∈ n, Path.IsName name) {name : Text}
    (hname : Path.IsName name) :
    Path.join (Path.below path n) name = Path.below path (n ++ [name]) :=
  (Path.join_of_isName (Path.below_ne_nil path hn) hname).trans (Path.below_below path hn [name])

namespace World

variable {w : World} {path : Text} {l : Location}

/-- A walk looks up where it starts, without following a link. -/
theorem exists_of_walk {paths : List Text} (h : w.walk path = .ok paths) :
    ∃ loc e, w.lookUp "lstat" false path = .ok (loc, e) ∧
      w.walkFrom (w.files.entries.length + 2) path e = .ok paths := by
  rw [walk] at h
  rcases hstat : w.lookUp "lstat" false path with e | ⟨loc, e⟩
  · rw [hstat] at h
    cases h
  · rw [hstat] at h
    exact ⟨loc, e, rfl, h⟩

/-- What a successful walk of a directory consists of. -/
theorem exists_of_walkFrom_directory {fuel : ℕ} {paths : List Text}
    (h : w.walkFrom (fuel + 1) path .directory = .ok paths) :
    ∃ entries lists, w.readDirectory path = .ok entries ∧ paths = lists.flatten ∧
      List.Forall₂ (fun child list ↦ w.walkFrom fuel (Path.join path child.1) child.2 = .ok list)
        entries lists := by
  rw [walkFrom, Entry.isDirectory, if_pos rfl] at h
  rcases hread : w.readDirectory path with e | entries
  · rw [hread] at h
    cases h
  · rw [hread] at h
    simp only [bind, Except.bind] at h
    split at h
    · cases h
    · next lists hlists =>
      exact ⟨entries, lists, rfl, (Except.ok.inj h).symm, mapM_eq_ok_iff.1 hlists⟩

/-- **A path that a walk comes by**, with the location and the entry it stands for. A directory is read
by its path, which therefore leads to its location. -/
structure Visits (w : World) (path : Text) (l : Location) (e : Entry) : Prop where
  /-- There is a path. -/
  ne_nil : path ≠ []
  /-- The entry is at the location. -/
  get?_eq : w.files.get? l = some e
  /-- What is listed is clean. -/
  eq_text : e ≠ .directory → path = (Path.ofText path).text
  /-- What is read leads to the location. -/
  leadsTo : e = .directory → w.LeadsTo (Path.ofText path) l
  /-- What is found there is where its normal form leads. -/
  leadsTo_of_find : ∀ m, w.find true path = .ok (some m) → w.LeadsTo (Path.ofText path) m

/-- **From a directory, a walk comes by its entries.** -/
theorem Visits.child (hfiles : w.files.WellFormed) (h : w.Visits path l .directory)
    {child : Text × Entry} (hchild : child ∈ w.files.children l) :
    (∀ name ∈ [child.1], Path.IsName name) ∧ Path.join path child.1 = Path.below path [child.1] ∧
      w.Visits (Path.below path [child.1]) (l ++ [child.1]) child.2 := by
  have hget := (hfiles.get?_eq_some_iff (by simp)).2 (FileSystem.mem_children.1 hchild)
  have hnames : ∀ name ∈ [child.1], Path.IsName name := hfiles.isName_of_get?_append hget
  have hname := hnames child.1 List.mem_cons_self
  have hclean := Path.below_eq_text path hnames
  refine ⟨hnames, Path.join_of_isName h.ne_nil hname, ?_⟩
  refine ⟨Path.below_ne_nil path hnames, hget, fun _ ↦ hclean, fun hdir ↦ ?_,
    fun _ hfind ↦ leadsTo_ofText hfind (Or.inl hclean)⟩
  obtain ⟨start, hstart, hleads⟩ := h.leadsTo rfl
  rw [Path.ofText_below path hnames]
  refine ⟨start, hstart, hleads.concat h.get?_eq hname hget fun t ht ↦ ?_⟩
  rw [hdir] at ht
  cases ht

/-- **A walk of paths is a walk on locations.** Each directory is read at the location it stands for. -/
theorem walkFrom_eq (hfiles : w.files.WellFormed) {fuel : ℕ} {e : Entry} {paths : List Text}
    (h : w.Visits path l e) (hwalk : w.walkFrom fuel path e = .ok paths) :
    paths = (w.files.walkBelow fuel l e).map (Path.below path) := by
  induction fuel generalizing path l e paths with
  | zero =>
    cases hwalk
    rfl
  | succ fuel ih =>
    by_cases hisDir : e = .directory
    · subst hisDir
      obtain ⟨entries, lists, hread, rfl, hlists⟩ := exists_of_walkFrom_directory hwalk
      obtain ⟨l', hopen, rfl⟩ := exists_of_readDirectory hread
      -- the path was looked up again, and found the location that the walk is at
      obtain rfl : l' = l :=
        (h.leadsTo_of_find l' (lookUp_eq_ok_some_iff.1 hopen).1).unique (h.leadsTo rfl)
      have hmap : (w.files.children l').map (fun child ↦
          (w.files.walkBelow fuel (l' ++ [child.1]) child.2).map
            fun n ↦ Path.below path (child.1 :: n)) = lists := by
        rw [← List.forall₂_eq_eq_eq, List.forall₂_map_left_iff]
        refine ((List.forall₂_and_left _ _).2 ⟨fun _ hmem ↦ hmem, hlists⟩).imp fun child list hlist ↦ ?_
        obtain ⟨hnames, hjoin, hvisits⟩ := h.child hfiles hlist.1
        have hwalk := hlist.2
        rw [hjoin] at hwalk
        rw [ih hvisits hwalk]
        exact List.map_congr_left fun n _ ↦ (Path.below_below path hnames n).symm
      rw [FileSystem.walkBelow, Entry.isDirectory, if_pos rfl, List.map_flatMap, ← hmap, List.flatMap]
      simp only [List.map_map, Function.comp_def]
    · have hisFile : e.isDirectory = false := by
        cases e with
        | directory => exact absurd rfl hisDir
        | _ => rfl
      simp only [walkFrom, hisFile, Bool.false_eq_true, if_false, Except.ok.injEq] at hwalk
      simp only [FileSystem.walkBelow, hisFile, Bool.false_eq_true, if_false, List.map_singleton,
        Path.below, List.append_nil]
      rw [← hwalk]
      exact congrArg (· :: []) (h.eq_text hisDir)

/-- Whether a path is itself a link, and leads to a directory. -/
def IsLinkToDirectory (w : World) (path : Text) : Prop :=
  (∃ loc t, w.lookUp "lstat" false path = .ok (loc, .link t)) ∧ w.isDirectory path = .ok true

/-- **What a successful walk of a directory lists is what there is below it.** -/
theorem exists_lists_of_walk (h : w.files.WellFormed) (hdir : w.isDirectory path = .ok true)
    (hlink : ¬ w.IsLinkToDirectory path)
    (hleads : ∀ m, w.find true path = .ok (some m) → w.LeadsTo (Path.ofText path) m)
    {paths : List Text} (hwalk : w.walk path = .ok paths) :
    ∃ l names, w.lookUp "stat" true path = .ok (some l, .directory) ∧ w.files.Lists l names ∧
      paths = names.map (Path.below path) := by
  obtain ⟨loc, e, hstat, hwalk⟩ := exists_of_walk hwalk
  -- the walk does not follow a link at its start, which is why there must be none
  obtain rfl := eq_directory_of_lookUp_false hdir hstat
    fun t ht ↦ hlink ⟨⟨loc, t, by rw [hstat, ht]⟩, hdir⟩
  obtain ⟨entries, -, hread, -⟩ := exists_of_walkFrom_directory hwalk
  obtain ⟨l, hopen, -⟩ := exists_of_readDirectory hread
  obtain ⟨hfind, hget⟩ := lookUp_eq_ok_some_iff.1 hopen
  have hvisits : w.Visits path l .directory :=
    ⟨(find_eq_ok_some_iff.1 hfind).1.2.1, hget, absurd rfl, fun _ ↦ hleads l hfind, hleads⟩
  exact ⟨l, _, lookUp_eq_ok_some_iff.2 ⟨hfind, hget⟩, h.lists_walkBelow hget (by omega),
    walkFrom_eq h hvisits hwalk⟩

end World

end StructuralLint
