import Mathlib
import StructuralLint.Files.Session

/-!
# The history of a file linter

A file linter is used for a while: its options and its linter of documents are replaced, files are
linted one by one or through arguments, and the world changes in between. The *history* of such a
run is the list of its calls to lint a file, those made for arguments included, each with the state in
which it was made. A call that comes after a failure among the arguments is not made and not in the
history.

All that one call leaves for the later ones is the list of visited paths. `Linked` says that each call
starts from the paths that the call before it left, and `exists_linked_history` that a history is linked, by
one lemma per request. What a call answers is then a matter of the calls before it
(`isDuplicate_iff_of_linked`):

* a path is reported on at most once (`history_reports_distinct`), whatever the spelling of the names
  and the base directory at the time;
* a duplicate is a path that was *asked for* before (`duplicate_iff_asked_before`). It need not have
  been linted: a path is remembered before the file is opened, so that a file which could not be opened
  or read counts as well (`retry_is_duplicate`).
-/

namespace StructuralLint

/-! ### Calls -/

/-- A call to lint a file: the state in which it is made, and the name. -/
structure FileCall where
  /-- The file linter. -/
  linter : FileLinter
  /-- The world. -/
  world : World
  /-- The name of the file. -/
  name : Text

namespace FileCall

/-- The absolute path of the file, under the options of the call. -/
def path (c : FileCall) : Except InvalidPath Text :=
  c.linter.options.resolve c.world c.name

/-- What the call answers. -/
def result (c : FileCall) : Except FileError Report :=
  (c.linter.lintFile c.world c.name).2

/-- The file linter after the call. -/
def after (c : FileCall) : FileLinter :=
  (c.linter.lintFile c.world c.name).1

/-- The call produces a report. -/
def Reports (c : FileCall) : Prop :=
  ∃ report, c.result = .ok report

/-- The call is refused because of an earlier one. -/
def IsDuplicate (c : FileCall) : Prop :=
  ∃ e, c.result = .error e ∧ e.isDuplicate = true

end FileCall

/-- The calls made for a list of names, up to the first failure. -/
def FileLinter.calls (f : FileLinter) (w : World) : List Text → List FileCall
  | [] => []
  | name :: names =>
    (if name = stdinName then [] else [⟨f, w, name⟩]) ++
      match f.lintName w name with
      | (_, _, .error _) => []
      | (f, w, .ok _) => f.calls w names

/-- The calls made for a request. -/
def FileSession.calls (s : FileSession) : FileRequest → List FileCall
  | .lintFile name => [⟨s.linter, s.world, name⟩]
  | .lintPaths arguments =>
    match s.linter.options.expand s.world arguments with
    | .error _ => []
    | .ok names => s.linter.calls s.world names
  | _ => []

/-! ### Runs -/

/-- What happens while a file linter is in use. -/
inductive FileEvent where
  /-- It is asked for something, or a file is written or removed. -/
  | request (r : FileRequest)
  /-- The world becomes another one. -/
  | change (world : World)

/-- Whether the event is a request to read lines, to expand arguments or to lint a source. -/
def FileEvent.isPassive : FileEvent → Bool
  | request (.readLines _) | request (.expand _) | request (.lintSource _ _) => true
  | _ => false

namespace FileSession

/-- The session after an event. -/
def next (s : FileSession) : FileEvent → FileSession
  | .request r => (s.step r).1
  | .change world => { s with world }

/-- The calls made for an event. -/
def callsAt (s : FileSession) : FileEvent → List FileCall
  | .request r => s.calls r
  | .change _ => []

/-- The calls of a run, in order. -/
def history (s : FileSession) : List FileEvent → List FileCall
  | [] => []
  | e :: events => s.callsAt e ++ (s.next e).history events

end FileSession

/-! ### One call -/

/-- **What one call can do.** -/
theorem FileLinter.lintFile_cases (f : FileLinter) (w : World) (name : Text) :
    (∃ e, f.options.resolve w name = .error e ∧ f.lintFile w name = (f, .error (.invalid e))) ∨
    ∃ path, f.options.resolve w name = .ok path ∧
      (path ∈ f.visited ∧ f.lintFile w name = (f, .error (.duplicate name)) ∨
        path ∉ f.visited ∧ f.lintFile w name =
          ({ f with visited := path :: f.visited }, (f.lintAt w name path).map (·.1))) := by
  rw [lintFile, lintFileTraced]
  rcases f.options.resolve w name with e | path
  · exact Or.inl ⟨e, rfl, rfl⟩
  · refine Or.inr ⟨path, rfl, ?_⟩
    by_cases hmem : path ∈ f.visited
    · exact Or.inl ⟨hmem, by simp [hmem, Except.map]⟩
    · exact Or.inr ⟨hmem, by simp [hmem]⟩

/-- Opening and reading fail in ways of their own. -/
theorem FileLinter.isDuplicate_eq_false_of_lintAt {f : FileLinter} {w : World} {name path : Text}
    {e : FileError} (h : f.lintAt w name path = .error e) : e.isDuplicate = false := by
  rw [lintAt] at h
  split at h
  · cases h
    rfl
  · rw [lintSourceTraced] at h
    split at h
    · cases h
      rfl
    · cases h

namespace FileCall

variable {c : FileCall} {path : Text}

theorem not_isDuplicate_of_reports (h : c.Reports) : ¬ c.IsDuplicate := by
  obtain ⟨report, hok⟩ := h
  rintro ⟨e, herror, -⟩
  rw [hok] at herror
  cases herror

/-- A report is about some path. -/
theorem exists_path_of_reports (h : c.Reports) : ∃ path, c.path = .ok path := by
  obtain ⟨report, hok⟩ := h
  obtain ⟨e, -, herror⟩ | ⟨path, hpath, -⟩ := c.linter.lintFile_cases c.world c.name
  · rw [result, herror] at hok
    cases hok
  · exact ⟨path, hpath⟩

theorem isDuplicate_iff (hpath : c.path = .ok path) : c.IsDuplicate ↔ path ∈ c.linter.visited := by
  obtain ⟨e, herror, -⟩ | ⟨path', hpath', hcall⟩ := c.linter.lintFile_cases c.world c.name
  · rw [FileCall.path, herror] at hpath
    cases hpath
  · obtain rfl : path' = path := Except.ok.inj (hpath'.symm.trans hpath)
    obtain ⟨hmem, hcall⟩ | ⟨hmem, hcall⟩ := hcall
    · exact iff_of_true ⟨_, congrArg Prod.snd hcall, rfl⟩ hmem
    · refine iff_of_false ?_ hmem
      rintro ⟨e, herror, hduplicate⟩
      rw [result, hcall] at herror
      rcases hat : c.linter.lintAt c.world c.name path' with e' | report
      · rw [hat] at herror
        cases herror
        rw [FileLinter.isDuplicate_eq_false_of_lintAt hat] at hduplicate
        cases hduplicate
      · rw [hat] at herror
        cases herror

theorem visited_after_of_isDuplicate (h : c.IsDuplicate) : c.after.visited = c.linter.visited := by
  obtain ⟨e, -, hcall⟩ | ⟨path, hpath, ⟨-, hcall⟩ | ⟨hmem, -⟩⟩ :=
    c.linter.lintFile_cases c.world c.name
  · rw [after, hcall]
  · rw [after, hcall]
  · exact absurd ((isDuplicate_iff hpath).1 h) hmem

/-- **A call remembers the path it is about**, whatever it answers. -/
theorem mem_visited_after_iff :
    path ∈ c.after.visited ↔ path ∈ c.linter.visited ∨ c.path = .ok path := by
  obtain ⟨e, herror, hcall⟩ | ⟨path', hpath, ⟨hmem, hcall⟩ | ⟨-, hcall⟩⟩ :=
    c.linter.lintFile_cases c.world c.name
  · rw [after, hcall, FileCall.path, herror]
    simp
  · rw [after, hcall, FileCall.path, hpath, Except.ok.injEq]
    exact ⟨Or.inl, fun h ↦ h.elim id fun he ↦ he ▸ hmem⟩
  · rw [after, hcall, FileCall.path, hpath, Except.ok.injEq, List.mem_cons, or_comm, eq_comm]

end FileCall

/-! ### Linked calls -/

/-- **Each call starts from what the one before it left**, and the last one leaves `final`. -/
def Linked (visited : List Text) : List FileCall → List Text → Prop
  | [], final => visited = final
  | c :: calls, final => c.linter.visited = visited ∧ Linked c.after.visited calls final

theorem Linked.append {visited between final : List Text} {A B : List FileCall}
    (hA : Linked visited A between) (hB : Linked between B final) : Linked visited (A ++ B) final := by
  induction A generalizing visited with
  | nil =>
    obtain rfl : visited = between := hA
    exact hB
  | cons c A ih => exact ⟨hA.1, ih hA.2⟩

/-- What is visited in the end is what was visited before and what the calls were about. -/
theorem Linked.mem_iff {visited final : List Text} {calls : List FileCall}
    (h : Linked visited calls final) {path : Text} :
    path ∈ final ↔ path ∈ visited ∨ ∃ c ∈ calls, c.path = .ok path := by
  induction calls generalizing visited with
  | nil =>
    obtain rfl : visited = final := h
    simp
  | cons c calls ih =>
    rw [ih h.2, FileCall.mem_visited_after_iff, h.1]
    simp [or_assoc]

theorem Linked.exists_between {visited final : List Text} {A B : List FileCall}
    (h : Linked visited (A ++ B) final) : ∃ between, Linked visited A between ∧
      Linked between B final := by
  induction A generalizing visited with
  | nil => exact ⟨visited, rfl, h⟩
  | cons c A ih =>
    obtain ⟨between, hA, hB⟩ := ih h.2
    exact ⟨between, ⟨h.1, hA⟩, hB⟩

/-- **A call is refused for the calls before it**, and for the paths visited before them. -/
theorem isDuplicate_iff_of_linked {visited final : List Text} {before after : List FileCall}
    {c : FileCall} (h : Linked visited (before ++ c :: after) final) {path : Text}
    (hpath : c.path = .ok path) :
    c.IsDuplicate ↔ path ∈ visited ∨ ∃ b ∈ before, b.path = .ok path := by
  obtain ⟨between, hbefore, hc, -⟩ := h.exists_between
  rw [FileCall.isDuplicate_iff hpath, hc, hbefore.mem_iff]

/-- Linked calls do not report twice on a path. -/
theorem Linked.pairwise_reports {visited final : List Text} {calls : List FileCall}
    (h : Linked visited calls final) :
    calls.Pairwise fun a b ↦ a.Reports → b.Reports → a.path ≠ b.path := by
  induction calls generalizing visited with
  | nil => exact List.Pairwise.nil
  | cons a calls ih =>
    refine List.Pairwise.cons (fun b hb ha hb' hpath ↦ ?_) (ih h.2)
    obtain ⟨path, hpath'⟩ := FileCall.exists_path_of_reports ha
    obtain ⟨A, B, rfl⟩ := List.append_of_mem hb
    have hlinked : Linked visited ((a :: A) ++ b :: B) final := h
    refine FileCall.not_isDuplicate_of_reports hb' ?_
    exact (isDuplicate_iff_of_linked hlinked (hpath ▸ hpath')).2
      (Or.inr ⟨a, List.mem_cons_self, hpath'⟩)

/-! ### Histories are linked -/

namespace FileLinter

theorem linked_calls (f : FileLinter) (w : World) (names : List Text) :
    Linked f.visited (f.calls w names) (f.lintNames w names).1.visited := by
  induction names generalizing f w with
  | nil => rfl
  | cons name names ih =>
    rw [calls, lintNames]
    -- one name is one call, or none when it stands for standard input
    have hname : Linked f.visited (if name = stdinName then [] else [⟨f, w, name⟩])
        (f.lintName w name).1.visited := by
      rw [lintName]
      split
      · rfl
      · exact ⟨rfl, rfl⟩
    rcases hresult : f.lintName w name with ⟨f', w', e | report⟩
    · rw [hresult] at hname
      exact hname.append rfl
    · rw [hresult] at hname
      exact hname.append (ih f' w')

end FileLinter

namespace FileSession

/-- One event of a run of one file linter. -/
theorem linked_callsAt (s : FileSession) {e : FileEvent} (he : e ≠ .request .renew) :
    Linked s.linter.visited (s.callsAt e) (s.next e).linter.visited := by
  cases e with
  | change world => rfl
  | request r =>
    cases r with
    | renew => exact absurd rfl he
    | lintFile name => exact ⟨rfl, rfl⟩
    | lintPaths arguments =>
      rw [callsAt, calls, next, step, FileLinter.lintPaths]
      rcases s.linter.options.expand s.world arguments with e | names
      · rfl
      · exact s.linter.linked_calls s.world names
    | _ => rfl

theorem exists_linked_history (s : FileSession) {events : List FileEvent}
    (hone : .request .renew ∉ events) : ∃ final, Linked s.linter.visited (s.history events) final := by
  induction events generalizing s with
  | nil => exact ⟨_, rfl⟩
  | cons e events ih =>
    rw [List.mem_cons, not_or] at hone
    obtain ⟨final, hfinal⟩ := ih (s.next e) hone.2
    exact ⟨final, (s.linked_callsAt (Ne.symm hone.1)).append hfinal⟩

/-- Passive requests are not seen. -/
theorem history_filter_not_isPassive (s : FileSession) (events : List FileEvent) :
    s.history (events.filter fun e ↦ !e.isPassive) = s.history events := by
  induction events generalizing s with
  | nil => rfl
  | cons e events ih =>
    rw [List.filter_cons]
    split
    · rw [history, history, ih]
    · next h =>
      have hpassive : s.callsAt e = [] ∧ s.next e = s := by
        cases e with
        | change world => exact absurd rfl h
        | request r =>
          cases r with
          | readLines name => exact ⟨rfl, rfl⟩
          | expand arguments => exact ⟨rfl, rfl⟩
          | lintSource name source => exact ⟨rfl, rfl⟩
          | _ => exact absurd rfl h
      rw [history, hpassive.1, hpassive.2, List.nil_append, ih]

/-- **At most one report per file.** In a run of one file linter, no two calls that produce a report
are about the same path, and requests to read lines, to expand arguments or to lint a source change
nothing in the calls or in what they answer. -/
theorem history_reports_distinct (s : FileSession) (events : List FileEvent)
    (hone : .request .renew ∉ events) :
    ((s.history events).Pairwise fun a b ↦ a.Reports → b.Reports → a.path ≠ b.path) ∧
      s.history (events.filter fun e ↦ !e.isPassive) = s.history events := by
  refine ⟨?_, s.history_filter_not_isPassive events⟩
  obtain ⟨final, hlinked⟩ := s.exists_linked_history hone
  exact hlinked.pairwise_reports

/-- A file that is asked for by its name and, after its lines were read and under another base
directory, through arguments: one report for two calls. -/
theorem history_reports_distinct_spellings :
    (FileSession.history
        ⟨{}, { files := ⟨[([Text.ofString "d", Text.ofString "a"], .file []),
          ([Text.ofString "d"], .directory)]⟩ }⟩
        [.request (.lintFile (Text.ofString "d/a")), .request (.readLines (Text.ofString "d/a")),
          .request (.setOptions [] (Text.ofString "d")),
          .request (.lintPaths [Text.ofString "a"])]).map FileCall.result =
      [.ok ⟨Text.ofString "d/a", []⟩, .error (.duplicate (Text.ofString "a"))] ∧
    ((FileSession.history
        ⟨{}, { files := ⟨[([Text.ofString "d", Text.ofString "a"], .file []),
          ([Text.ofString "d"], .directory)]⟩ }⟩
        [.request (.lintFile (Text.ofString "d/a")), .request (.readLines (Text.ofString "d/a")),
          .request (.setOptions [] (Text.ofString "d")),
          .request (.lintPaths [Text.ofString "a"])]).Pairwise
      fun a b ↦ a.Reports → b.Reports → a.path ≠ b.path) :=
  ⟨by cbv, (history_reports_distinct _ _ (by simp)).1⟩

/-- **A duplicate is a file that was asked for before**, in a run of a new file linter. Whether it was
linted is another matter: it was exactly if the first call for it produced a report. A call that fails
leaves the visited paths as they are if it is refused as a duplicate, and not if it fails later, to
open or to read the file. -/
theorem duplicate_iff_asked_before {s : FileSession} (hnew : s.linter.visited = [])
    {events : List FileEvent} (hone : .request .renew ∉ events) {before after : List FileCall}
    {c : FileCall} (hcall : s.history events = before ++ c :: after) {path : Text}
    (hpath : c.path = .ok path) :
    (c.IsDuplicate ↔ ∃ b ∈ before, b.path = .ok path) ∧
    (c.IsDuplicate → ((∃ b ∈ before, b.path = .ok path ∧ b.Reports) ↔
      ∃ b, before.find? (fun b ↦ b.path = .ok path) = some b ∧ b.Reports)) ∧
    (¬ c.Reports → (c.after.visited = c.linter.visited ↔ c.IsDuplicate)) := by
  obtain ⟨final, hlinked⟩ := s.exists_linked_history hone
  rw [hcall, hnew] at hlinked
  refine ⟨by simpa using isDuplicate_iff_of_linked hlinked hpath, fun _ ↦ ⟨?_, ?_⟩, fun _ ↦ ⟨?_, ?_⟩⟩
  · rintro ⟨b, hb, hbpath, hreports⟩
    -- a call that reports is not refused, so it is the first one for its path
    obtain ⟨A, B, rfl⟩ := List.append_of_mem hb
    rw [List.append_assoc, List.cons_append] at hlinked
    have hfirst := (isDuplicate_iff_of_linked hlinked hbpath).not.1
      (FileCall.not_isDuplicate_of_reports hreports)
    rw [not_or] at hfirst
    refine ⟨b, List.find?_eq_some_iff_append.2 ⟨by simpa using hbpath, A, B, rfl, ?_⟩, hreports⟩
    intro a ha
    simpa using fun hpath' ↦ hfirst.2 ⟨a, ha, hpath'⟩
  · rintro ⟨b, hfind, hreports⟩
    exact ⟨b, List.mem_of_find?_eq_some hfind, by simpa using List.find?_some hfind, hreports⟩
  · intro hvisited
    rw [FileCall.isDuplicate_iff hpath, ← hvisited, FileCall.mem_visited_after_iff]
    exact Or.inr hpath
  · exact FileCall.visited_after_of_isDuplicate

/-- The second call for a file, under another spelling, is a duplicate, and the first one reported. -/
theorem duplicate_iff_asked_before_twice :
    FileCall.IsDuplicate
        ⟨FileCall.after ⟨{}, { files := ⟨[([Text.ofString "a"], .file [])]⟩ }, Text.ofString "a"⟩,
          { files := ⟨[([Text.ofString "a"], .file [])]⟩ }, Text.ofString "./a"⟩ ∧
      FileCall.Reports
        ⟨{}, { files := ⟨[([Text.ofString "a"], .file [])]⟩ }, Text.ofString "a"⟩ := by
  have hreports : FileCall.result
      ⟨{}, { files := ⟨[([Text.ofString "a"], .file [])]⟩ }, Text.ofString "a"⟩ =
        .ok ⟨Text.ofString "a", []⟩ := by cbv
  have hfirst : FileCall.path
      ⟨{}, { files := ⟨[([Text.ofString "a"], .file [])]⟩ }, Text.ofString "a"⟩ =
        .ok (Text.ofString "/a") := by cbv
  have hsecond : FileCall.path
      ⟨FileCall.after ⟨{}, { files := ⟨[([Text.ofString "a"], .file [])]⟩ }, Text.ofString "a"⟩,
        { files := ⟨[([Text.ofString "a"], .file [])]⟩ }, Text.ofString "./a"⟩ =
        .ok (Text.ofString "/a") := by cbv
  have hcall : FileSession.history ⟨{}, { files := ⟨[([Text.ofString "a"], .file [])]⟩ }⟩
      [.request (.lintFile (Text.ofString "a")), .request (.lintFile (Text.ofString "./a"))] =
        [_] ++ _ :: [] := rfl
  have hduplicate := duplicate_iff_asked_before rfl (by simp) hcall hsecond
  exact ⟨hduplicate.1.2 ⟨_, List.mem_singleton_self _, hfirst⟩, _, hreports⟩

/-- **A retry is refused.** A file that is not there cannot be linted; once it has been written, it is
refused as one that was. -/
theorem retry_is_duplicate :
    (FileSession.history {} [.request (.lintFile (Text.ofString "a")),
        .request (.write (Text.ofString "a") []),
        .request (.lintFile (Text.ofString "a"))]).map FileCall.result =
      [.error (.unopened ⟨"open", Text.ofString "/a", .noSuchEntry⟩),
        .error (.duplicate (Text.ofString "a"))] := by
  cbv

end FileSession

end StructuralLint
