import StructuralLint.Proofs.Lint.Neighbours

/-!
# The zero-indent fallback

With the fallback, a line without leading spaces counts as indented by one. The setting is read in one
place, the indent of a node, and what follows from it is followed here through the whole linter:

* a line yields the same node but for its indent, which is 1 instead of 0 when the line has no
  leading space (`sourcedNodes_withFallback`);
* an indent of 1 is odd and an indent of 0 is not, so the node breaks one rule more, and the rules on
  neighbours see kinds only (`nodeRules_map_fallback`);
* the findings without the fallback are therefore those with it, less one for each node of an
  unindented line (`findings_withFallback`, `filter_isUnindented_findings`).

That a line has no leading space is asked of its text. The indent would not do: it is a 64-bit word,
and enough spaces wrap it around to 0.
-/

namespace StructuralLint

/-- The same settings, with the fallback on or off. -/
def Linter.withFallback (l : Linter) (on : Bool) : Linter :=
  { l with zeroIndentFallback := on }

/-- The node as the fallback leaves it. -/
def SourcedNode.fallback (s : SourcedNode) : SourcedNode :=
  if s.line.text.leadingSpaces = 0 then { s with node := { s.node with indent := 1 } } else s

/-- Whether a finding is about the indent of a line without leading spaces. -/
def Finding.isUnindented (f : Finding) : Bool :=
  f.rule = .indentationNotEven && f.line.text.leadingSpaces = 0

/-- The finding on the indent of a node. -/
def Context.indentFinding (x : Context SourcedNode) : Finding :=
  ⟨.indentationNotEven, x.here.line, x.here.source, x.before.length⟩

/-- What the fallback adds to the findings at a node. -/
def Context.addedFindings (x : Context SourcedNode) : List Finding :=
  if x.here.line.text.leadingSpaces = 0 then [x.indentFinding] else []

/-! ### Nodes -/

namespace Classifier

theorem node?_indent (c c' : Classifier) (line : Line) :
    c.node? line =
      (c'.node? line).map fun node ↦ { node with indent := c.indent line.text } := by
  simp only [node?]
  split
  · rfl
  · rw [Option.map_map]
    rfl

/-- Two classifiers with the same comment rule yield the same nodes but for the indent. -/
theorem nodeOf?_indent {c c' : Classifier} (h : c.isComment = c'.isComment) (line : Line) :
    c.nodeOf? line =
      (c'.nodeOf? line).map fun node ↦ { node with indent := c.indent line.text } := by
  rw [nodeOf?_eq_ite, nodeOf?_eq_ite, c.node?_indent c' line, h]
  split <;> rfl

end Classifier

namespace SourcedNode

@[simp] theorem line_fallback (s : SourcedNode) : s.fallback.line = s.line := by
  rw [fallback]
  split <;> rfl

@[simp] theorem source_fallback (s : SourcedNode) : s.fallback.source = s.source := by
  rw [fallback]
  split <;> rfl

@[simp] theorem kind_fallback (s : SourcedNode) : s.fallback.node.kind = s.node.kind := by
  rw [fallback]
  split <;> rfl

end SourcedNode

namespace Linter

variable (l : Linter)

/-- Without the fallback, the node of an unindented line has no indent. -/
theorem indent_eq_zero_of_mem_sourcedNodes {lines : List Line} {s : SourcedNode}
    (hs : s ∈ (l.withFallback false).sourcedNodes lines) (hzero : s.line.text.leadingSpaces = 0) :
    s.node.indent = 0 := by
  have hclassify := (Classifier.of_mem_sourcedNodes hs).1
  rw [(Classifier.indent_line_of_classify hclassify).1, Classifier.indent, hzero]
  rfl

/-- **The fallback changes indents only.** -/
theorem sourcedNodes_withFallback (lines : List Line) :
    (l.withFallback true).sourcedNodes lines =
      ((l.withFallback false).sourcedNodes lines).map SourcedNode.fallback := by
  rw [Classifier.sourcedNodes, Classifier.sourcedNodes, List.map_filterMap]
  refine List.filterMap_congr fun x _ ↦ ?_
  have hcomment : (l.withFallback true).isComment = (l.withFallback false).isComment := rfl
  rw [Context.sourcedNode?, Context.sourcedNode?, Classifier.nodeOf?_indent hcomment]
  rcases hnode : (l.withFallback false).nodeOf? x.here with - | node
  · rfl
  · have hindent : node.indent = (l.withFallback false).indent x.here.text :=
      (Classifier.indent_line_of_classify (Classifier.nodeOf?_eq_some_iff.1 hnode)).1
    by_cases hzero : x.here.text.leadingSpaces = 0
    · simp [SourcedNode.fallback, Classifier.indent, hzero, withFallback]
    · -- with a leading space, both settings count the spaces
      have hsame : (l.withFallback true).indent x.here.text = node.indent := by
        rw [hindent, Classifier.indent, Classifier.indent, if_neg (fun h ↦ hzero h.1),
          if_neg (fun h ↦ hzero h.1)]
      simp [SourcedNode.fallback, hzero, hsame]

end Linter

/-! ### Rules and findings of one node -/

/-- An indent of 1 breaks one rule more than none. -/
theorem Node.violations_indent_one {before after : Option Node} {node : Node}
    (h : node.indent = 0) :
    violations before { node with indent := 1 } after =
      .indentationNotEven :: violations before node after := by
  simp [violations, isOdd, isOrphan, isChildless, h]

namespace Context

variable {x : Context SourcedNode}

/-- The rules on neighbours do not see the fallback. -/
theorem nodeRules_map_fallback
    (h : x.here.line.text.leadingSpaces = 0 → x.here.node.indent = 0) :
    ((x.map SourcedNode.fallback).map SourcedNode.node).nodeRules =
      (if x.here.line.text.leadingSpaces = 0 then [.indentationNotEven] else []) ++
        (x.map SourcedNode.node).nodeRules := by
  have hkind : Node.kind ∘ SourcedNode.node ∘ SourcedNode.fallback =
      Node.kind ∘ SourcedNode.node := funext SourcedNode.kind_fallback
  -- the neighbours may have lost their indent too, but only their kinds count
  have hneighbours : ((x.map SourcedNode.fallback).map SourcedNode.node).nodeRules =
      Node.violations (x.map SourcedNode.node).before.getLast? x.here.fallback.node
        (x.map SourcedNode.node).after.head? := by
    refine Node.violations_congr ?_ rfl rfl ?_
    · simp only [before_map, List.getLast?_map, Option.map_map, hkind]
    · simp only [after_map, List.head?_map, Option.map_map, hkind]
  rw [hneighbours, SourcedNode.fallback]
  split
  · next hzero => exact Node.violations_indent_one (h hzero)
  · rfl

theorem nodeFindings_map_fallback
    (h : x.here.line.text.leadingSpaces = 0 → x.here.node.indent = 0) :
    (x.map SourcedNode.fallback).nodeFindings = x.addedFindings ++ x.nodeFindings := by
  rw [nodeFindings, nodeRules_map_fallback h, List.map_append, addedFindings]
  simp only [here_map, before_map, List.length_map, SourcedNode.line_fallback,
    SourcedNode.source_fallback]
  split <;> rfl

theorem isUnindented_of_mem_addedFindings {f : Finding} (hf : f ∈ x.addedFindings) :
    f.isUnindented = true := by
  obtain ⟨hzero, hf⟩ := List.mem_ite_nil_right.1 hf
  rw [List.mem_singleton.1 hf]
  simp [Finding.isUnindented, indentFinding, hzero]

end Context

/-! ### The whole document -/

namespace Linter

variable (l : Linter)

/-- The two checks with the fallback, written over the nodes without it. -/
theorem findings_withFallback_of_no_tab {lines : List Line}
    (hno : ∀ line ∈ lines, line.text.hasLeadingTab = false) :
    (l.withFallback true).findings lines =
      (contexts lines).flatMap Context.markerFindings ++
        (contexts ((l.withFallback false).sourcedNodes lines)).flatMap fun x ↦
          x.addedFindings ++ x.nodeFindings := by
  rw [(l.withFallback true).findings_of_no_tab hno, l.sourcedNodes_withFallback, contexts_map,
    List.flatMap_map]
  congr 1
  refine List.flatMap_congr fun x hx ↦ Context.nodeFindings_map_fallback ?_
  exact l.indent_eq_zero_of_mem_sourcedNodes (here_mem_of_mem_contexts hx)

theorem isUnindented_eq_false_of_mem_markerFindings {lines : List Line} {f : Finding}
    (hf : f ∈ (contexts lines).flatMap Context.markerFindings) : f.isUnindented = false := by
  obtain ⟨x, -, hf⟩ := List.mem_flatMap.1 hf
  obtain ⟨rule, hrule, rfl⟩ := List.mem_map.1 hf
  have hpass := Context.pass_of_mem_markerRules hrule
  have hne : rule ≠ .indentationNotEven := by
    rintro rfl
    cases hpass
  simp [Finding.isUnindented, hne]

/-- Without the fallback, an unindented node does not break the rule on indents. -/
theorem isUnindented_eq_false_of_mem_nodeFindings {lines : List Line} {x : Context SourcedNode}
    (hx : x ∈ contexts ((l.withFallback false).sourcedNodes lines)) {f : Finding}
    (hf : f ∈ x.nodeFindings) : f.isUnindented = false := by
  obtain ⟨rule, hrule, rfl⟩ := List.mem_map.1 hf
  by_cases hzero : x.here.line.text.leadingSpaces = 0
  · have hindent : x.here.node.indent = 0 :=
      l.indent_eq_zero_of_mem_sourcedNodes (here_mem_of_mem_contexts hx) hzero
    have hne : rule ≠ .indentationNotEven := by
      rintro rfl
      have hodd := Node.indentationNotEven_mem_violations.1 hrule
      rw [Context.here_map, Node.isOdd, hindent] at hodd
      exact absurd hodd (by decide)
    simp [Finding.isUnindented, hne]
  · simp [Finding.isUnindented, hzero]

/-- **Without the fallback the same is found**, except for the indents of unindented lines. -/
theorem findings_withFallback (lines : List Line) :
    (l.withFallback false).findings lines =
      ((l.withFallback true).findings lines).filter fun f ↦ !f.isUnindented := by
  rcases no_tab_or_exists_first_tab lines with hno | ⟨A, line, B, rfl, hA, htab⟩
  · have hmarkers : ((contexts lines).flatMap Context.markerFindings).filter
        (fun f ↦ !f.isUnindented) = (contexts lines).flatMap Context.markerFindings :=
      List.filter_eq_self.2 fun f hf ↦ by simp [isUnindented_eq_false_of_mem_markerFindings hf]
    have hnodes : ∀ x ∈ contexts ((l.withFallback false).sourcedNodes lines),
        (x.addedFindings ++ x.nodeFindings).filter (fun f ↦ !f.isUnindented) =
          x.nodeFindings := by
      intro x hx
      rw [List.filter_append, List.filter_eq_nil_iff.2, List.filter_eq_self.2, List.nil_append]
      · exact fun f hf ↦ by simp [l.isUnindented_eq_false_of_mem_nodeFindings hx hf]
      · exact fun f hf ↦ by simp [Context.isUnindented_of_mem_addedFindings hf]
    rw [l.findings_withFallback_of_no_tab hno, (l.withFallback false).findings_of_no_tab hno,
      List.filter_append, hmarkers, List.filter_flatMap, List.flatMap_congr hnodes]
  · -- a leading tab is found before any indent is looked at
    rw [(l.withFallback false).findings_of_hasLeadingTab hA htab,
      (l.withFallback true).findings_of_hasLeadingTab hA htab]
    rfl

/-- **With the fallback each node of an unindented line is found once**, in the order of the
nodes. -/
theorem filter_isUnindented_findings {lines : List Line}
    (hno : ∀ line ∈ lines, line.text.hasLeadingTab = false) :
    ((l.withFallback true).findings lines).filter Finding.isUnindented =
      ((contexts ((l.withFallback true).sourcedNodes lines)).filter
        fun x ↦ x.here.line.text.leadingSpaces = 0).map Context.indentFinding := by
  have hmarkers : ((contexts lines).flatMap Context.markerFindings).filter Finding.isUnindented =
      [] :=
    List.filter_eq_nil_iff.2 fun f hf ↦ by simp [isUnindented_eq_false_of_mem_markerFindings hf]
  have hnodes : ∀ x ∈ contexts ((l.withFallback false).sourcedNodes lines),
      (x.addedFindings ++ x.nodeFindings).filter Finding.isUnindented = x.addedFindings := by
    intro x hx
    rw [List.filter_append, List.filter_eq_self.2, List.filter_eq_nil_iff.2, List.append_nil]
    · exact fun f hf ↦ by simp [l.isUnindented_eq_false_of_mem_nodeFindings hx hf]
    · exact fun f hf ↦ Context.isUnindented_of_mem_addedFindings hf
  rw [l.findings_withFallback_of_no_tab hno, List.filter_append, hmarkers, List.nil_append,
    List.filter_flatMap, List.flatMap_congr hnodes, l.sourcedNodes_withFallback, contexts_map,
    List.filter_map, List.map_map, ← flatMap_ite_singleton]
  refine List.flatMap_congr fun x _ ↦ ?_
  simp [Context.addedFindings, Context.indentFinding]

/-- **The fallback only adds findings on the indent of unindented nodes.** Both outlines fail
alike or are the same nodes, which have indent 1 with the fallback and 0 without it where the source
text has no leading space. What is reported without the fallback is what is reported with it, in the
same order, less the findings on the indent of such nodes; and of these there is one for each such
node. -/
theorem lint_withFallback (lines : List Line) :
    (∀ e, (l.withFallback true).outline lines = .error e ↔
      (l.withFallback false).outline lines = .error e) ∧
    (∀ outline, (l.withFallback false).outline lines = .ok outline →
      outline = ((l.withFallback false).sourcedNodes lines).map SourcedNode.node ∧
      (l.withFallback true).outline lines =
        .ok (((l.withFallback false).sourcedNodes lines).map fun s ↦
          if s.line.text.leadingSpaces = 0 then { s.node with indent := 1 } else s.node) ∧
      ((l.withFallback true).findings lines).filter Finding.isUnindented =
        ((contexts ((l.withFallback true).sourcedNodes lines)).filter
          fun x ↦ x.here.line.text.leadingSpaces = 0).map Context.indentFinding) ∧
    (∀ s ∈ (l.withFallback false).sourcedNodes lines,
      lines[s.source]? = some s.line ∧ (l.withFallback false).classify s.line = .ok (some s.node) ∧
        (s.line.text.leadingSpaces = 0 → s.node.indent = 0)) ∧
    (l.withFallback true).lint lines = ((l.withFallback true).findings lines).map l.diagnose ∧
    (l.withFallback false).lint lines =
      (((l.withFallback true).findings lines).filter fun f ↦ !f.isUnindented).map l.diagnose := by
  refine ⟨fun e ↦ ?_, fun outline houtline ↦ ?_, fun s hs ↦ ?_,
    (l.withFallback true).lint_eq_map_findings lines, ?_⟩
  · rw [Classifier.outline_eq_error_iff, Classifier.outline_eq_error_iff]
  · obtain ⟨hno, rfl⟩ := Classifier.outline_eq_ok_iff.1 houtline
    have hnode : SourcedNode.node ∘ SourcedNode.fallback = fun s : SourcedNode ↦
        if s.line.text.leadingSpaces = 0 then { s.node with indent := 1 } else s.node := by
      funext s
      rw [Function.comp_apply, SourcedNode.fallback]
      split <;> rfl
    refine ⟨(Classifier.map_node_sourcedNodes _ lines).symm, ?_,
      l.filter_isUnindented_findings hno⟩
    rw [Classifier.outline_eq_ok hno, ← Classifier.map_node_sourcedNodes,
      l.sourcedNodes_withFallback, List.map_map, hnode]
  · obtain ⟨hclassify, hsource⟩ := Classifier.of_mem_sourcedNodes hs
    exact ⟨hsource, hclassify, l.indent_eq_zero_of_mem_sourcedNodes hs⟩
  · rw [lint_eq_map_findings, l.findings_withFallback]
    rfl

/-- Two unindented nodes and one that is indented by one space: the finding on the indent of the
latter stays, and so do the marker and the key without a child. -/
theorem lint_withFallback_three_nodes :
    (withFallback {} true).outline (Line.ofTexts [Text.ofString "k: v", Text.ofString " m: w",
        Text.ofString "- i", Text.ofString "---"]) =
      .ok [⟨1, .keyValuePair, Text.ofString "k", Text.ofString "v", 1⟩,
        ⟨1, .keyValuePair, Text.ofString "m", Text.ofString "w", 2⟩,
        ⟨1, .listItem, Text.ofString "-", Text.ofString "i", 3⟩] ∧
    (withFallback {} true).lint (Line.ofTexts [Text.ofString "k: v", Text.ofString " m: w",
        Text.ofString "- i", Text.ofString "---"]) =
      [.ofRule 4 .misplacedStart, .ofRule 1 .indentationNotEven, .ofRule 1 .keyMissingChild,
        .ofRule 2 .indentationNotEven, .ofRule 3 .indentationNotEven] ∧
    (withFallback {} false).lint (Line.ofTexts [Text.ofString "k: v", Text.ofString " m: w",
        Text.ofString "- i", Text.ofString "---"]) =
      [.ofRule 4 .misplacedStart, .ofRule 1 .keyMissingChild, .ofRule 2 .indentationNotEven] := by
  have h : (withFallback {} false).outline (Line.ofTexts [Text.ofString "k: v",
        Text.ofString " m: w", Text.ofString "- i", Text.ofString "---"]) =
      .ok [⟨0, .keyValuePair, Text.ofString "k", Text.ofString "v", 1⟩,
        ⟨1, .keyValuePair, Text.ofString "m", Text.ofString "w", 2⟩,
        ⟨0, .listItem, Text.ofString "-", Text.ofString "i", 3⟩] := by decide
  obtain ⟨-, houtline, -, hon, hoff⟩ := lint_withFallback {} (Line.ofTexts [Text.ofString "k: v",
    Text.ofString " m: w", Text.ofString "- i", Text.ofString "---"])
  exact ⟨(houtline _ h).2.1.trans (by decide), hon.trans (by decide), hoff.trans (by decide)⟩

end Linter

end StructuralLint
