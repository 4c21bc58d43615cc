import StructuralLint.Proofs.Lint.Check

/-!
# Findings and the lines they are about

A diagnostic carries a line *number*, and the number alone does not say where a finding comes from:
it wraps around, and in legacy mode it counts nodes or lies one line further down. A `Finding` is a
diagnostic before it is numbered. It knows its rule, the line it is about, the position of that line
in the document and, for a structural rule, the position of its node in the outline.

`lint_eq_map_findings` says that the linter reports its findings one by one and in order, each
numbered by `Linter.numberOf`. Statements that compare two documents or two numberings are then
statements about findings, and the numbering comes last.
-/

namespace StructuralLint

/-! ### Findings -/

/-- The parts of the linter that report. -/
inductive Pass where
  /-- The search for a leading tab. -/
  | tab
  /-- The check of document markers. -/
  | marker
  /-- The check of the outline. -/
  | structural
  deriving DecidableEq, Repr

/-- The part of the linter that checks a rule. -/
def Rule.pass : Rule → Pass
  | .tabIndentation => .tab
  | .misplacedStart | .misplacedEnd | .endNotLastLine => .marker
  | .indentationNotEven | .orphanListItem | .keyMissingChild => .structural

/-- A broken rule, with the place where it is broken. -/
structure Finding where
  /-- The rule. -/
  rule : Rule
  /-- The line that breaks it. -/
  line : Line
  /-- How many lines of the document stand before that line. -/
  source : ℕ
  /-- How many nodes of the outline stand before the node of that line; zero unless the rule is
  structural. -/
  place : ℕ
  deriving DecidableEq, Repr

/-- A node of the outline, with the line that yields it. -/
structure SourcedNode where
  /-- The node. -/
  node : Node
  /-- The line. -/
  line : Line
  /-- How many lines of the document stand before that line. -/
  source : ℕ
  deriving DecidableEq, Repr

namespace Context

/-- The leading tab of a line. -/
def tabFinding (x : Context Line) : Finding :=
  ⟨.tabIndentation, x.here, x.before.length, 0⟩

/-- What the marker check finds at a line. -/
def markerFindings (x : Context Line) : List Finding :=
  x.markerRules.map (⟨·, x.here, x.before.length, 0⟩)

/-- What the structural check finds at a node. -/
def nodeFindings (x : Context SourcedNode) : List Finding :=
  (x.map SourcedNode.node).nodeRules.map (⟨·, x.here.line, x.here.source, x.before.length⟩)

/-- The node of a line, with its place in the document. -/
def sourcedNode? (c : Classifier) (x : Context Line) : Option SourcedNode :=
  (c.nodeOf? x.here).map (⟨·, x.here, x.before.length⟩)

end Context

/-- The nodes of a document, each with its line. -/
def Classifier.sourcedNodes (c : Classifier) (lines : List Line) : List SourcedNode :=
  (contexts lines).filterMap (Context.sourcedNode? c)

/-- The first leading tab of a document. -/
def firstTab? (lines : List Line) : Option Finding :=
  ((contexts lines).find? fun x ↦ x.here.text.hasLeadingTab).map Context.tabFinding

namespace Linter

/-- What the linter finds in a document: the first leading tab alone, or what the two checks
find. -/
def findings (l : Linter) (lines : List Line) : List Finding :=
  match firstTab? lines with
  | some f => [f]
  | none =>
    (contexts lines).flatMap Context.markerFindings ++
      (contexts (l.sourcedNodes lines)).flatMap Context.nodeFindings

/-- The line number under which a finding is reported. Legacy mode numbers a tab one line further
down and a node by its place in the outline. -/
def numberOf (l : Linter) (f : Finding) : Int64 :=
  if l.legacyLineNumbers then
    match f.rule.pass with
    | .tab => f.line.number + 1
    | .marker => f.line.number
    | .structural => Int64.ofNat f.place + 2
  else f.line.number

/-- How a finding is reported. -/
def diagnose (l : Linter) (f : Finding) : Diagnostic :=
  ⟨l.numberOf f, f.rule.code, if f.rule.pass = .tab then .fatal else .error, f.rule.explanation⟩

end Linter

/-! ### The rules of each check -/

/-- No two rules share a code. -/
theorem Rule.code_injective : Function.Injective Rule.code := by
  intro a b h
  cases a <;> cases b <;> revert h <;> decide

theorem Context.pass_of_mem_markerRules {x : Context Line} {rule : Rule}
    (h : rule ∈ x.markerRules) : rule.pass = .marker := by
  rw [markerRules, List.mem_append] at h
  rcases h with h | h
  · split at h
    · split at h
      · rw [List.mem_singleton.1 h]
        rfl
      · simp at h
    · split at h
      · simp at h
      · rw [List.mem_singleton.1 h]
        rfl
    · simp at h
  · split at h
    · rw [List.mem_singleton.1 h]
      rfl
    · simp at h

theorem Node.pass_of_mem_violations {before after : Option Node} {node : Node} {rule : Rule}
    (h : rule ∈ violations before node after) : rule.pass = .structural := by
  simp only [violations, List.mem_append, List.mem_ite_nil_right, List.mem_singleton] at h
  obtain (⟨-, rfl⟩ | ⟨-, rfl⟩) | ⟨-, rfl⟩ := h
  · rfl
  · rfl
  · rfl

/-! ### The nodes of a document, with their lines -/

namespace Classifier

variable (c : Classifier)

theorem map_node_sourcedNodes (lines : List Line) :
    (c.sourcedNodes lines).map SourcedNode.node = c.nodes lines := by
  conv_rhs => rw [← map_here_contexts lines]
  rw [sourcedNodes, nodes, List.map_filterMap, List.filterMap_map]
  refine List.filterMap_congr fun x _ ↦ ?_
  rw [Context.sourcedNode?, Option.map_map]
  exact Option.map_id'

variable {c}

/-- A sourced node is what its line yields, and its line stands where it says. -/
theorem of_mem_sourcedNodes {lines : List Line} {s : SourcedNode} (h : s ∈ c.sourcedNodes lines) :
    c.classify s.line = .ok (some s.node) ∧ lines[s.source]? = some s.line := by
  obtain ⟨x, hx, hs⟩ := List.mem_filterMap.1 h
  obtain ⟨node, hnode, rfl⟩ := Option.map_eq_some_iff.1 hs
  exact ⟨nodeOf?_eq_some_iff.1 hnode,
    getElem?_eq_some_iff_append.2 ⟨_, _, mem_contexts_iff.1 hx, rfl⟩⟩

end Classifier

/-! ### The first leading tab -/

theorem firstTab?_eq_none {lines : List Line}
    (h : ∀ line ∈ lines, line.text.hasLeadingTab = false) : firstTab? lines = none := by
  rw [firstTab?, Option.map_eq_none_iff, List.find?_eq_none]
  intro x hx
  simp [h x.here (here_mem_of_mem_contexts hx)]

theorem firstTab?_append_cons {A B : List Line} {line : Line}
    (hA : ∀ a ∈ A, a.text.hasLeadingTab = false) (hline : line.text.hasLeadingTab = true) :
    firstTab? (A ++ line :: B) = some (Context.tabFinding ⟨A, line, B⟩) := by
  have hbefore : ((contexts A).map (Context.followedBy (line :: B))).find?
      (fun x ↦ x.here.text.hasLeadingTab) = none := by
    refine List.find?_eq_none.2 fun x hx ↦ ?_
    obtain ⟨y, hy, rfl⟩ := List.mem_map.1 hx
    simpa using hA y.here (here_mem_of_mem_contexts hy)
  rw [firstTab?, contexts_append_cons, List.find?_append, hbefore, Option.none_or,
    List.find?_cons_of_pos (by exact hline), Option.map_some]

/-! ### Reporting -/

namespace Linter

variable (l : Linter)

theorem findings_of_no_tab {lines : List Line}
    (h : ∀ line ∈ lines, line.text.hasLeadingTab = false) :
    l.findings lines = (contexts lines).flatMap Context.markerFindings ++
      (contexts (l.sourcedNodes lines)).flatMap Context.nodeFindings := by
  rw [findings, firstTab?_eq_none h]

theorem findings_of_hasLeadingTab {A B : List Line} {line : Line}
    (hA : ∀ a ∈ A, a.text.hasLeadingTab = false) (hline : line.text.hasLeadingTab = true) :
    l.findings (A ++ line :: B) = [⟨.tabIndentation, line, A.length, 0⟩] := by
  rw [findings, firstTab?_append_cons hA hline]
  rfl

theorem map_diagnose_markerFindings (x : Context Line) :
    x.markerFindings.map l.diagnose = x.markerRules.map (Diagnostic.ofRule x.here.number) := by
  rw [Context.markerFindings, List.map_map]
  refine List.map_congr_left fun rule hrule ↦ ?_
  have hpass := Context.pass_of_mem_markerRules hrule
  simp [diagnose, numberOf, hpass, Diagnostic.ofRule]

theorem map_diagnose_nodeFindings {lines : List Line} {x : Context SourcedNode}
    (hx : x ∈ contexts (l.sourcedNodes lines)) :
    x.nodeFindings.map l.diagnose = (x.map SourcedNode.node).nodeRules.map
      (Diagnostic.ofRule (l.numbering.lineOf x.before.length x.here.node)) := by
  have hsourced := Classifier.of_mem_sourcedNodes (here_mem_of_mem_contexts hx)
  have hline : x.here.node.line = x.here.line.number :=
    (Classifier.indent_line_of_classify hsourced.1).2
  rw [Context.nodeFindings, List.map_map]
  refine List.map_congr_left fun rule hrule ↦ ?_
  have hpass := Node.pass_of_mem_violations hrule
  cases hlegacy : l.legacyLineNumbers <;>
    simp [diagnose, numberOf, numbering, Numbering.lineOf, hpass, hlegacy, hline,
      Diagnostic.ofRule]

/-- **The linter reports its findings**, one by one and in order. -/
theorem lint_eq_map_findings (lines : List Line) :
    l.lint lines = (l.findings lines).map l.diagnose := by
  rcases no_tab_or_exists_first_tab lines with hno | ⟨A, line, B, rfl, hA, htab⟩
  · have hnodes : (contexts (l.nodes lines)).flatMap (fun x ↦ x.nodeRules.map
          (Diagnostic.ofRule (l.numbering.lineOf x.before.length x.here))) =
        (contexts (l.sourcedNodes lines)).flatMap fun x ↦ x.nodeFindings.map l.diagnose := by
      rw [← l.map_node_sourcedNodes, contexts_map, List.flatMap_map]
      refine List.flatMap_congr fun x hx ↦ ?_
      rw [l.map_diagnose_nodeFindings hx]
      simp [Context.map]
    rw [l.lint_of_no_tab hno, l.findings_of_no_tab hno, List.map_append, List.map_flatMap,
      List.map_flatMap, checkMarkers_eq_flatMap, Outline.validate_eq_flatMap, hnodes]
    simp only [map_diagnose_markerFindings]
  · rw [l.lint_of_hasLeadingTab hA htab, l.findings_of_hasLeadingTab hA htab]
    rfl

/-- A finding's line stands where the finding says. -/
theorem getElem?_source_of_mem_findings {lines : List Line} {f : Finding}
    (hf : f ∈ l.findings lines) : lines[f.source]? = some f.line := by
  rcases no_tab_or_exists_first_tab lines with hno | ⟨A, line, B, rfl, hA, htab⟩
  · rw [l.findings_of_no_tab hno, List.mem_append, List.mem_flatMap, List.mem_flatMap] at hf
    rcases hf with ⟨x, hx, hf⟩ | ⟨x, hx, hf⟩
    · obtain ⟨rule, -, rfl⟩ := List.mem_map.1 hf
      exact getElem?_eq_some_iff_append.2 ⟨_, _, mem_contexts_iff.1 hx, rfl⟩
    · obtain ⟨rule, -, rfl⟩ := List.mem_map.1 hf
      exact (Classifier.of_mem_sourcedNodes (here_mem_of_mem_contexts hx)).2
  · rw [l.findings_of_hasLeadingTab hA htab, List.mem_singleton] at hf
    rw [hf]
    exact getElem?_eq_some_iff_append.2 ⟨A, B, rfl, rfl⟩

end Linter

end StructuralLint
