import Mathlib.Data.List.Induction
import StructuralLint.Lint.Session
import StructuralLint.Proofs.Lint.Fatal

/-!
# A linter in use

A linter is asked for things and its settings are changed in between. All that a request leaves for the
later ones is the value it sets, if it sets one, and a later value for the same setting takes its place.
So the session after any requests is known from the last value set for each setting (`after_eq`, by one
step per request), and `answers_forget_history` says what this means for an observer: each request is
answered as a new linter would answer it that was given these last values and nothing else. Whether
entries are recorded shows in the log only, which holds one entry per linted document while they are.
-/

namespace StructuralLint

namespace Request

/-! ### What a request sets -/

/-- The zero-indent fallback that is set. -/
def fallback? : Request → Option Bool
  | setZeroIndentFallback on => some on
  | _ => none

/-- The positional numbering that is set. -/
def legacyLineNumbers? : Request → Option Bool
  | setLegacyLineNumbers on => some on
  | _ => none

/-- The comment rule that is set. -/
def comment? : Request → Option (Text → Bool)
  | setComment isComment => some isComment
  | _ => none

/-- The recording that is set. -/
def recording? : Request → Option Bool
  | setRecording on => some on
  | _ => none

/-- The last value that some requests set. -/
def lastSet {α : Type} (set? : Request → Option α) (requests : List Request) : Option α :=
  (requests.filterMap set?).getLast?

/-- A later value takes the place of an earlier one. -/
theorem lastSet_concat {α : Type} (set? : Request → Option α) (requests : List Request) (r : Request) :
    lastSet set? (requests ++ [r]) = (set? r).or (lastSet set? requests) := by
  rw [lastSet, List.filterMap_append, List.getLast?_append]
  rcases h : set? r with - | a <;> simp [h, lastSet]

/-- Requests that set, on a new linter, the last value for each setting that concerns documents. -/
def lastSettings (requests : List Request) : List Request :=
  (lastSet fallback? requests).toList.map setZeroIndentFallback ++
    (lastSet legacyLineNumbers? requests).toList.map setLegacyLineNumbers ++
    (lastSet comment? requests).toList.map setComment

/-- The lines that a request lints, if it does and they can be read. -/
def document? : Request → Option (List Line)
  | lint lines => some lines
  | lintText document => some (Line.split document)
  | lintSource source =>
    match source.read with
    | (_, some _) => none
    | (lines, none) => some lines
  | _ => none

end Request

namespace Session

open Request

/-! ### The state after some requests -/

/-- The session after some requests. -/
def after (s : Session) (requests : List Request) : Session :=
  requests.foldl update s

/-- The answers to some requests and then to others. -/
theorem run_append (s : Session) (requests others : List Request) :
    s.run (requests ++ others) = s.run requests ++ (s.after requests).run others := by
  induction requests generalizing s with
  | nil => rfl
  | cons r requests ih =>
    rw [List.cons_append, run, run, ih]
    rfl

theorem length_run (s : Session) (requests : List Request) :
    (s.run requests).length = requests.length := by
  induction requests generalizing s with
  | nil => rfl
  | cons r requests ih => rw [run, List.length_cons, ih, List.length_cons]

/-- A request is answered from the state that the requests before it left. -/
theorem getElem?_run (s : Session) (before : List Request) (r : Request) (later : List Request) :
    (s.run (before ++ r :: later))[before.length]? = some ((s.after before).answer r) := by
  rw [run_append, List.getElem?_append_right (by rw [length_run]), length_run, Nat.sub_self, run]
  rfl

theorem getLast?_run (s : Session) (before : List Request) (r : Request) :
    (s.run (before ++ [r])).getLast? = some ((s.after before).answer r) := by
  rw [run_append, run, run, List.getLast?_concat]

/-- **The state is made of the last values set**, and of the defaults where none was. -/
theorem after_eq (requests : List Request) :
    Session.after {} requests =
      { linter :=
          { zeroIndentFallback := (lastSet fallback? requests).getD true
            legacyLineNumbers := (lastSet legacyLineNumbers? requests).getD false
            isComment := (lastSet comment? requests).getD ({} : Linter).isComment }
        isRecording := (lastSet recording? requests).getD false } := by
  induction requests using List.reverseRecOn with
  | nil => rfl
  | append_singleton requests r ih =>
    simp only [lastSet_concat]
    rw [after, List.foldl_concat, ← after, ih]
    cases r <;> rfl

/-- A new linter that is given the last values is in the same state, but does not record. -/
theorem after_lastSettings (requests : List Request) :
    Session.after {} (lastSettings requests) =
      { linter := (Session.after {} requests).linter, isRecording := false } := by
  rw [after_eq requests, lastSettings]
  rcases lastSet fallback? requests with - | fallback <;>
    rcases lastSet legacyLineNumbers? requests with - | legacy <;>
      rcases lastSet comment? requests with - | comment <;> rfl

/-! ### One answer -/

variable {s : Session} {r : Request}

/-- **Recording does not show in a response**, and without it nothing is logged. -/
theorem answer_silent (s : Session) (r : Request) :
    ({ s with isRecording := false }).answer r = ((s.answer r).1, []) := by
  cases r with
  | lintSource source =>
    rw [answer, answer]
    rcases source.read with ⟨lines, - | e⟩ <;> rfl
  | _ => rfl

/-- A request that lints a document lints its lines. -/
theorem answer_of_document {lines : List Line} (h : r.document? = some lines) :
    s.answer r = (.linted (s.linter.lint lines), s.entries (s.linter.lintTraced lines).2) := by
  cases r with
  | lintSource source =>
    rw [answer]
    rcases hread : source.read with ⟨read, - | e⟩
    · obtain rfl : read = lines := by simpa [document?, hread] using h
      rfl
    · simp [document?, hread] at h
  | lint _ | lintText _ =>
    cases h
    rfl
  | _ => cases h

/-- Any other request leaves nothing in the log. -/
theorem answer_of_no_document (h : r.document? = none) : s.answer r = ((s.answer r).1, []) := by
  cases r with
  | lintSource source =>
    rw [answer]
    rcases hread : source.read with ⟨lines, - | e⟩
    · simp [document?, hread] at h
    · rfl
  | lint _ | lintText _ => cases h
  | _ => rfl

end Session

/-! ### The entry of a document -/

/-- **What is logged of one linted document**: that its analysis was aborted, if its findings are fatal, and
how many lines, nodes and findings it has, if they are not. -/
inductive Logs (lines : List Line) (built : Except TabError Outline) (diagnostics : List Diagnostic) :
    LogEntry → Prop
  /-- A tab stopped the analysis. -/
  | aborted {e : TabError} (hbuilt : built = .error e) (hfatal : hasFatal diagnostics = true) :
      Logs lines built diagnostics
        ⟨.debug, "aborting structural analysis", [("error", .text e.message)]⟩
  /-- The document was analysed. -/
  | linted {nodes : Outline} (hbuilt : built = .ok nodes) (hfatal : hasFatal diagnostics = false) :
      Logs lines built diagnostics
        ⟨.debug, "linted document",
          [("lines", .count lines.length), ("nodes", .count nodes.length),
            ("diagnostics", .count diagnostics.length)]⟩

theorem Linter.logs_lintTraced (l : Linter) (lines : List Line) :
    Logs lines (l.outline lines) (l.lint lines) (l.lintTraced lines).2.entry := by
  rcases h : l.outline lines with e | nodes
  · have hfatal : hasFatal (l.lint lines) = true := by
      obtain ⟨A, line, B, rfl, -, htab, -⟩ := Classifier.outline_eq_error_iff.1 h
      exact l.hasFatal_lint_iff.2 ⟨line, by simp, htab⟩
    have htrace : (l.lintTraced lines).2 = .aborted e := by
      rw [lintTraced, h]
    rw [htrace]
    exact .aborted rfl hfatal
  · have hfatal : hasFatal (l.lint lines) = false := by
      rw [← Bool.not_eq_true, l.hasFatal_lint_iff]
      rintro ⟨line, hline, htab⟩
      exact absurd htab (by simp [(Classifier.outline_eq_ok_iff.1 h).1 line hline])
    have htrace : (l.lintTraced lines).2 =
        .linted lines.length nodes.length (l.lint lines).length := by
      rw [lint, lintTraced, h]
    rw [htrace]
    exact .linted rfl hfatal

namespace Session

open Request

/-- **The history of a linter does not matter.** Whatever was asked of a linter before, a request is answered
as it is by a new linter that was only given the last value set for each of the three settings. While
entries are recorded, a request that lints a document leaves one entry, and nothing else leaves any. -/
theorem answers_forget_history (before : List Request) (r : Request) (later : List Request) :
    ∃ response entries,
      (Session.run {} (before ++ r :: later))[before.length]? = some (response, entries) ∧
      (Session.run {} (lastSettings before ++ [r])).getLast? = some (response, []) ∧
      (lastSet recording? before = some true → ∀ lines, r.document? = some lines →
        ∃ built diagnostics entry,
          (Session.run {} (before ++ [.build lines])).getLast? = some (.built built, []) ∧
          response = .linted diagnostics ∧ entries = [entry] ∧
          Logs lines built diagnostics entry) ∧
      (lastSet recording? before ≠ some true ∨ r.document? = none → entries = []) := by
  have hrecording : (Session.after {} before).isRecording = (lastSet recording? before).getD false := by
    rw [after_eq]
  refine ⟨((Session.after {} before).answer r).1, ((Session.after {} before).answer r).2,
    getElem?_run {} before r later, ?_, fun hon lines hlines ↦ ?_, fun hoff ↦ ?_⟩
  · rw [getLast?_run, after_lastSettings, ← answer_silent]
  · rw [answer_of_document hlines, Session.entries, hrecording, hon]
    exact ⟨_, _, _, getLast?_run {} before _, rfl, rfl, Linter.logs_lintTraced _ lines⟩
  · rcases hdocument : r.document? with - | lines
    · rw [answer_of_no_document hdocument]
    · have hsilent : lastSet recording? before ≠ some true := hoff.resolve_right (by simp [hdocument])
      have hnot : (lastSet recording? before).getD false = false := by
        rcases h : lastSet recording? before with - | (_ | _) <;> simp_all
      rw [answer_of_document hdocument, Session.entries, hrecording, hnot]
      rfl

/-- After a document with a tab, with recording on and settings changed before and after it: the answer is
that of a new linter with the last settings, and the entry is that of the document alone. -/
theorem answers_forget_history_after_tab :
    (Session.run {} ([.setRecording true, .setLegacyLineNumbers false, .lintText (Text.ofString "\ta"),
        .setZeroIndentFallback false, .setLegacyLineNumbers true] ++
          .lintText (Text.ofString "k:\nj:") :: []))[5]? =
      some (.linted [.ofRule 2 .keyMissingChild],
        [⟨.debug, "linted document", [("lines", .count 2), ("nodes", .count 2), ("diagnostics", .count 1)]⟩]) ∧
    (Session.run {} [.setZeroIndentFallback false, .setLegacyLineNumbers true,
        .lintText (Text.ofString "k:\nj:")]).getLast? =
      some (.linted [.ofRule 2 .keyMissingChild], []) := by
  have hanswer : (Session.run {} ([.setRecording true, .setLegacyLineNumbers false,
      .lintText (Text.ofString "\ta"), .setZeroIndentFallback false, .setLegacyLineNumbers true] ++
        .lintText (Text.ofString "k:\nj:") :: []))[5]? =
      some (.linted [.ofRule 2 .keyMissingChild],
        [⟨.debug, "linted document",
          [("lines", .count 2), ("nodes", .count 2), ("diagnostics", .count 1)]⟩]) := by rfl
  obtain ⟨response, entries, hrun, hfresh, -⟩ := answers_forget_history
    [.setRecording true, .setLegacyLineNumbers false, .lintText (Text.ofString "\ta"),
      .setZeroIndentFallback false, .setLegacyLineNumbers true] (.lintText (Text.ofString "k:\nj:")) []
  obtain ⟨rfl, rfl⟩ := Prod.mk.inj (Option.some.inj (hrun.symm.trans hanswer))
  exact ⟨hanswer, hfresh⟩

end Session

end StructuralLint
