import StructuralLint.Lint.Linter
import StructuralLint.Proofs.Document.Classify
import StructuralLint.Proofs.Document.Context

/-!
# The two checks, line by line and node by node

Both checks walk along a list with something in hand: the marker check with three flags, the
structural check with a position and the node before. Here each is rewritten as one function of a
context, applied to all contexts in order:

* `checkMarkers_eq_flatMap`: a line breaks a marker rule because of the lines around it
  (`Context.markerRules`), the flags being what the lines before it say;
* `validate_eq_flatMap`: a node breaks a structural rule because of its neighbours.

`lint_of_hasLeadingTab` and `lint_of_no_tab` put the two together. Later modules use these equations
and do not open the walks again.
-/

namespace StructuralLint

/-! ### Markers -/

theorem Line.marker?_eq_start_iff {line : Line} :
    line.marker? = some .start ↔ line.text.trim = Text.ofString "---" := by
  rw [marker?]
  split
  · next h => simp [h]
  · next h => split <;> simp [h]

theorem Line.marker?_eq_finish_iff {line : Line} :
    line.marker? = some .finish ↔ line.text.trim = Text.ofString "..." := by
  rw [marker?]
  split
  · next h =>
    rw [h]
    exact ⟨fun he ↦ absurd he (by decide), fun he ↦ absurd he (by decide)⟩
  · split
    · next h => simp [h]
    · next h => simp [h]

/-- What the marker check remembers of the lines it has passed. -/
def MarkerState.after (before : List Line) : MarkerState where
  begun := !before.isEmpty
  startSeen := before.any (·.marker? = some .start)
  endSeen := before.any (·.marker? = some .finish)

/-- The marker rules that a line breaks among the others, in the order they are reported. -/
def Context.markerRules (x : Context Line) : List Rule :=
  (match x.here.marker? with
    | some .start =>
      if x.before ≠ [] ∧ ∀ line ∈ x.before, line.marker? ≠ some .start then [.misplacedStart]
      else []
    | some .finish => if x.after = [] then [] else [.misplacedEnd]
    | none => []) ++
  (if x.after = [] ∧ (∃ line ∈ x.before, line.marker? = some .finish) ∧
      x.here.marker? ≠ some .finish then [.endNotLastLine] else [])

/-- The marker rules look at markers only, and at whether there are lines before and after. -/
theorem Context.markerRules_congr {x y : Context Line} (hhere : x.here.marker? = y.here.marker?)
    (hbefore : x.before = [] ↔ y.before = []) (hafter : x.after = [] ↔ y.after = [])
    (hseen : ∀ marker, (∃ line ∈ x.before, line.marker? = some marker) ↔
      ∃ line ∈ y.before, line.marker? = some marker) : x.markerRules = y.markerRules := by
  have hnone : (∀ line ∈ x.before, line.marker? ≠ some .start) ↔
      ∀ line ∈ y.before, line.marker? ≠ some .start := by
    simpa using not_congr (hseen .start)
  simp only [markerRules, hhere, ne_eq, hbefore, hafter, hseen, hnone]

/-- One step of the walk, from what the lines before say. -/
theorem checkMarkersFrom_cons (before : List Line) (line : Line) (rest : List Line) :
    checkMarkersFrom (.after before) (line :: rest) =
      (Context.markerRules ⟨before, line, rest⟩).map (Diagnostic.ofRule line.number) ++
        checkMarkersFrom (.after (before ++ [line])) rest := by
  have hstate : MarkerState.after (before ++ [line]) =
      { begun := true
        startSeen := (MarkerState.after before).startSeen || line.marker? = some .start
        endSeen := (MarkerState.after before).endSeen || line.marker? = some .finish } := by
    simp [MarkerState.after]
  rw [checkMarkersFrom, hstate]
  congr 2
  rw [Context.markerRules]
  congr 1
  · cases line.marker? with
    | none => rfl
    | some marker =>
      cases marker with
      | start => simp [MarkerState.after]
      | finish => simp
  · simp [MarkerState.after, and_assoc]

theorem checkMarkersFrom_after (before lines : List Line) :
    checkMarkersFrom (.after before) lines =
      (contextsFrom before lines).flatMap fun x ↦
        x.markerRules.map (Diagnostic.ofRule x.here.number) := by
  induction lines generalizing before with
  | nil => rfl
  | cons line rest ih =>
    rw [checkMarkersFrom_cons, ih, contextsFrom, List.flatMap_cons]

/-- **The marker check, line by line.** -/
theorem checkMarkers_eq_flatMap (lines : List Line) :
    checkMarkers lines =
      (contexts lines).flatMap fun x ↦ x.markerRules.map (Diagnostic.ofRule x.here.number) :=
  checkMarkersFrom_after [] lines

/-- The marker check sees of a line its number and its marker. -/
theorem checkMarkers_congr {lines lines' : List Line}
    (h : List.Forall₂ (fun a b ↦ a.number = b.number ∧ a.marker? = b.marker?) lines lines') :
    checkMarkers lines = checkMarkers lines' := by
  have hfrom : ∀ state, checkMarkersFrom state lines = checkMarkersFrom state lines' := by
    induction h with
    | nil => exact fun _ ↦ rfl
    | @cons a b rest rest' hab htail ih =>
      intro state
      have hempty : rest.isEmpty = rest'.isEmpty := by
        cases htail <;> rfl
      rw [checkMarkersFrom, checkMarkersFrom, hab.1, hab.2, hempty, ih]
  exact hfrom {}

/-! ### Structure -/

/-- The structural rules that a node breaks between its neighbours. -/
def Context.nodeRules (x : Context Node) : List Rule :=
  Node.violations x.before.getLast? x.here x.after.head?

/-- The structural rules look at the indent and the kind of a node and at the kinds of its
neighbours. -/
theorem Node.violations_congr {before before' after after' : Option Node} {node node' : Node}
    (hbefore : before.map Node.kind = before'.map Node.kind)
    (hindent : node.indent = node'.indent) (hkind : node.kind = node'.kind)
    (hafter : after.map Node.kind = after'.map Node.kind) :
    violations before node after = violations before' node' after' := by
  have hany : ∀ (p : Kind → Bool) {a b : Option Node}, a.map Node.kind = b.map Node.kind →
      a.any (fun n ↦ p n.kind) = b.any fun n ↦ p n.kind := by
    intro p a b hab
    simpa [Option.any_map, Function.comp_def] using congrArg (Option.any p) hab
  have hodd : node.isOdd = node'.isOdd := by
    simp [isOdd, hindent]
  have horphan : isOrphan before node = isOrphan before' node' := by
    rw [isOrphan, isOrphan, hany Kind.isKnown hbefore, hkind]
  have hchildless : isChildless node after = isChildless node' after' := by
    rw [isChildless, isChildless, hany (fun k ↦ k ≠ .listItem) hafter, hkind]
  rw [violations, violations, hodd, horphan, hchildless]

theorem Outline.validateFrom_eq_flatMap (numbering : Numbering) (before rest : List Node) :
    Outline.validateFrom numbering before.length before.getLast? rest =
      (contextsFrom before rest).flatMap fun x ↦
        x.nodeRules.map (Diagnostic.ofRule (numbering.lineOf x.before.length x.here)) := by
  induction rest generalizing before with
  | nil => rfl
  | cons node rest ih =>
    have htail := ih (before ++ [node])
    rw [List.length_append, List.length_singleton, List.getLast?_concat] at htail
    rw [validateFrom, contextsFrom, List.flatMap_cons, htail]
    rfl

/-- **The structural check, node by node.** -/
theorem Outline.validate_eq_flatMap (numbering : Numbering) (outline : Outline) :
    outline.validate numbering =
      (contexts outline).flatMap fun x ↦
        x.nodeRules.map (Diagnostic.ofRule (numbering.lineOf x.before.length x.here)) :=
  validateFrom_eq_flatMap numbering [] outline

/-! ### The linter -/

/-- Either no line has a leading tab, or one is the first. -/
theorem no_tab_or_exists_first_tab (lines : List Line) :
    (∀ line ∈ lines, line.text.hasLeadingTab = false) ∨
      ∃ A line B, lines = A ++ line :: B ∧ (∀ a ∈ A, a.text.hasLeadingTab = false) ∧
        line.text.hasLeadingTab = true := by
  rcases h : lines.find? fun line ↦ line.text.hasLeadingTab with - | line
  · refine Or.inl fun line hline ↦ ?_
    simpa using List.find?_eq_none.1 h line hline
  · obtain ⟨hline, A, B, hAB, hA⟩ := List.find?_eq_some_iff_append.1 h
    exact Or.inr ⟨A, line, B, hAB, fun a ha ↦ by simpa using hA a ha, hline⟩

/-- **The outline fails at the first leading tab** and nowhere else. -/
theorem Classifier.outline_eq_error_iff {c : Classifier} {lines : List Line} {e : TabError} :
    c.outline lines = .error e ↔
      ∃ A line B, lines = A ++ line :: B ∧ (∀ a ∈ A, a.text.hasLeadingTab = false) ∧
        line.text.hasLeadingTab = true ∧ e = ⟨line.number⟩ := by
  constructor
  · intro h
    rcases no_tab_or_exists_first_tab lines with hno | ⟨A, line, B, rfl, hA, htab⟩
    · rw [outline_eq_ok hno] at h
      cases h
    · rw [outline_eq_error hA htab] at h
      exact ⟨A, line, B, rfl, hA, htab, (Except.error.inj h).symm⟩
  · rintro ⟨A, line, B, rfl, hA, htab, rfl⟩
    exact outline_eq_error hA htab

/-- The outline succeeds without a leading tab, and then it is the list of nodes. -/
theorem Classifier.outline_eq_ok_iff {c : Classifier} {lines : List Line} {outline : Outline} :
    c.outline lines = .ok outline ↔
      (∀ line ∈ lines, line.text.hasLeadingTab = false) ∧ outline = c.nodes lines := by
  constructor
  · intro h
    rcases no_tab_or_exists_first_tab lines with hno | ⟨A, line, B, rfl, hA, htab⟩
    · rw [outline_eq_ok hno] at h
      exact ⟨hno, (Except.ok.inj h).symm⟩
    · rw [outline_eq_error hA htab] at h
      cases h
  · rintro ⟨hno, rfl⟩
    exact outline_eq_ok hno

namespace Linter

variable (l : Linter)

/-- Without a leading tab both checks report. -/
theorem lint_of_no_tab {lines : List Line}
    (h : ∀ line ∈ lines, line.text.hasLeadingTab = false) :
    l.lint lines = checkMarkers lines ++ (l.nodes lines).validate l.numbering := by
  rw [lint, lintTraced, Classifier.outline_eq_ok h]

/-- A leading tab is all that is reported. -/
theorem lint_of_hasLeadingTab {A B : List Line} {line : Line}
    (hA : ∀ a ∈ A, a.text.hasLeadingTab = false) (hline : line.text.hasLeadingTab = true) :
    l.lint (A ++ line :: B) = [l.fatalDiagnostic (.ofTab ⟨line.number⟩)] := by
  rw [lint, lintTraced, Classifier.outline_eq_error hA hline]

end Linter

end StructuralLint
