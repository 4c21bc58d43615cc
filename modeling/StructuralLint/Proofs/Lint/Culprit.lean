import Mathlib.Algebra.Ring.Int.Parity
import StructuralLint.Proofs.Document.Split
import StructuralLint.Proofs.Lint.Fatal
import StructuralLint.Proofs.Lint.Neighbours

/-!
# Findings and their culprits

A report is read by line: a finding names a line, and that line has to be the one to blame. This
module says so for in-memory documents, for which the linter numbers the lines itself.

The argument has three parts.

* **Who is to blame** (`justifies_of_mem_findings`) is a fact about findings and holds for any lines.
* **The order of findings** (`pairwise_precedes_markers`, `pairwise_precedes_nodes`) is the order of the
  lists that the two checks walk along. It is stated for `Linter.countOf`, the number of a finding
  before it becomes a 64-bit word; two findings have different numbers or different rules.
* **No number wraps around** (`countOf_lt_of_mem_markers`, `countOf_lt_of_mem_nodes`). A document has no
  more lines than runes, and each node takes a line and a rune of its own, so the numbers fit as soon
  as the size of the document does.

`lintText_culprits` puts them together.
-/

namespace StructuralLint

/-! ### The number of lines and of nodes -/

namespace Text

theorem length_le_size (t : Text) : t.length ≤ t.size := by
  induction t with
  | nil => exact Nat.zero_le _
  | cons r t ih =>
    have hr : 1 ≤ r.size := by
      cases r with
      | char c => exact c.utf8Size_pos
      | stray b => exact Nat.le_refl 1
    rw [size_cons, List.length_cons]
    omega

/-- A text is its pieces with a separator between neighbours. -/
theorem sum_length_splitOn (sep : Char) (t : Text) :
    ((splitOn sep t).map fun p ↦ p.length + 1).sum = t.length + 1 := by
  rw [splitOn_eq]
  induction t with
  | nil => rfl
  | cons r t ih =>
    obtain ⟨p, ps, hp⟩ : ∃ p ps, List.splitOn (.char sep) t = p :: ps :=
      List.exists_cons_of_ne_nil (List.splitOn_ne_nil _ _)
    rw [hp, List.map_cons, List.sum_cons] at ih
    rw [List.splitOn_cons_eq_if_modifyHead, hp, List.length_cons]
    split
    · rw [List.map_cons, List.map_cons, List.sum_cons, List.sum_cons, ih, List.length_nil]
      omega
    · rw [List.modifyHead_cons, List.map_cons, List.sum_cons, List.length_cons]
      omega

/-- The pieces that are not empty take a rune of their own. -/
theorem length_add_countP_splitOn_le (sep : Char) (t : Text) :
    (splitOn sep t).length + (splitOn sep t).countP (· ≠ []) ≤ t.length + 1 := by
  have hsum : ∀ texts : List Text,
      texts.length + texts.countP (· ≠ []) ≤ (texts.map fun p ↦ p.length + 1).sum := by
    intro texts
    induction texts with
    | nil => exact Nat.le_refl 0
    | cons p texts ih =>
      have hp : (if decide (p ≠ []) = true then 1 else 0) ≤ p.length := by
        cases p <;> simp
      rw [List.length_cons, List.countP_cons, List.map_cons, List.sum_cons]
      omega
  exact (hsum _).trans_eq (sum_length_splitOn sep t)

end Text

namespace Line

/-- Lines that are not empty take a rune of their own. -/
theorem length_add_countP_split_le (document : Text) :
    (split document).length + (split document).countP (·.text ≠ []) ≤ document.length + 1 := by
  rcases eq_or_ne document [] with rfl | hne
  · exact Nat.zero_le 1
  · have hdrop : (dropFinal '\n' document).length ≤ document.length := by
      rcases dropFinal_cases '\n' document with h | h
      · rw [h, List.length_append, dropFinal_concat_self]
        exact Nat.le_add_right _ _
      · rw [h]
    have hlines := Text.length_add_countP_splitOn_le '\n' (dropFinal '\n' document)
    rw [← map_text_split document hne, List.length_map, List.countP_map] at hlines
    exact hlines.trans (Nat.succ_le_succ hdrop)

/-- **A document has no more lines than runes.** -/
theorem length_split_le (document : Text) : (split document).length ≤ document.length := by
  rcases List.eq_nil_or_concat' document with rfl | ⟨t, r, rfl⟩
  · exact Nat.le_refl 0
  · by_cases hr : r = .char '\n'
    · -- the final line feed is a rune and no line
      have hlines := Text.length_add_countP_splitOn_le '\n' t
      rw [← List.length_map (f := text), map_text_split _ (by simp), hr, dropFinal_concat_self,
        List.length_append, List.length_singleton]
      omega
    · -- without one the last line is not empty
      have hlast : t.rtakeWhile (· != .char '\n') ++ [r] ∈ (split (t ++ [r])).map text := by
        rw [map_text_split _ (by simp), dropFinal_concat_of_ne hr]
        refine List.mem_of_getLast? ?_
        rw [Text.getLast?_splitOn, List.rtakeWhile_concat_pos _ _ _ (by simpa using hr)]
      obtain ⟨line, hline, htext⟩ := List.mem_map.1 hlast
      have hcount : 0 < (split (t ++ [r])).countP (·.text ≠ []) :=
        List.countP_pos_iff.2 ⟨line, hline, by simp [htext]⟩
      have hlines := length_add_countP_split_le (t ++ [r])
      omega

end Line

theorem Classifier.text_ne_nil_of_classify {c : Classifier} {line : Line} {node : Node}
    (h : c.classify line = .ok (some node)) : line.text ≠ [] := by
  intro hnil
  have hblank := (classify_eq_some_iff.1 h).2.1
  rw [hnil] at hblank
  cases hblank

/-- **The number of nodes** is bounded by the number of lines that are not empty. -/
theorem Classifier.length_sourcedNodes_le (c : Classifier) (lines : List Line) :
    (c.sourcedNodes lines).length ≤ lines.countP (·.text ≠ []) := by
  rw [← List.length_map (f := SourcedNode.node), c.map_node_sourcedNodes, nodes,
    List.length_filterMap_eq_countP]
  refine List.countP_mono_left fun line _ hsome ↦ ?_
  obtain ⟨node, hnode⟩ := Option.isSome_iff_exists.1 hsome
  simpa using text_ne_nil_of_classify (nodeOf?_eq_some_iff.1 hnode)

/-! ### Who is to blame -/

namespace Linter

/-- **The line is to blame** for a finding of the rule. -/
def Justifies (l : Linter) (lines : List Line) (line : Line) : Rule → Prop
  | .misplacedStart => line.text.trim = Text.ofString "---"
  | .misplacedEnd => line.text.trim = Text.ofString "..."
  | .endNotLastLine => lines.getLast? = some line
  | .indentationNotEven => ∃ node, l.classify line = .ok (some node) ∧ Odd node.indent.toInt
  | .orphanListItem => ∃ node, l.classify line = .ok (some node) ∧ node.kind = .listItem
  | .keyMissingChild => ∃ node, l.classify line = .ok (some node) ∧ node.kind.isKey = true
  | .tabIndentation => line.text.TabIndented

end Linter

theorem Node.odd_toInt_indent {node : Node} (h : node.isOdd = true) : Odd node.indent.toInt := by
  rw [isOdd, decide_eq_true_eq, Ne, ← Int64.toInt_inj, Int64.toInt_mod] at h
  rw [← Int.not_even_iff_odd, even_iff_two_dvd, Int.dvd_iff_tmod_eq_zero]
  exact h

namespace Linter

variable {l : Linter} {lines : List Line}

theorem justifies_of_mem_markerRules {x : Context Line} (hx : x ∈ contexts lines) {rule : Rule}
    (h : rule ∈ x.markerRules) : l.Justifies lines x.here rule := by
  rw [Context.markerRules, List.mem_append, List.mem_ite_nil_right] at h
  obtain h | ⟨⟨hafter, -⟩, h⟩ := h
  · split at h
    · next hmarker =>
      rw [List.mem_singleton.1 (List.mem_ite_nil_right.1 h).2]
      exact Line.marker?_eq_start_iff.1 hmarker
    · next hmarker =>
      rw [List.mem_singleton.1 (List.mem_ite_nil_left.1 h).2]
      exact Line.marker?_eq_finish_iff.1 hmarker
    · simp at h
  · have hlines := mem_contexts_iff.1 hx
    rw [hafter] at hlines
    rw [List.mem_singleton.1 h, Justifies, hlines, List.getLast?_concat]

theorem justifies_of_mem_violations {line : Line} {before after : Option Node} {node : Node}
    (hnode : l.classify line = .ok (some node)) {rule : Rule}
    (h : rule ∈ Node.violations before node after) : l.Justifies lines line rule := by
  simp only [Node.violations, List.mem_append, List.mem_ite_nil_right, List.mem_singleton] at h
  obtain (⟨hodd, rfl⟩ | ⟨horphan, rfl⟩) | ⟨hchildless, rfl⟩ := h
  · exact ⟨node, hnode, Node.odd_toInt_indent hodd⟩
  · rw [Node.isOrphan, Bool.and_eq_true, decide_eq_true_eq] at horphan
    exact ⟨node, hnode, horphan.1⟩
  · rw [Node.isChildless, Bool.and_eq_true] at hchildless
    exact ⟨node, hnode, hchildless.1⟩

/-- **The line of a finding is to blame for it.** -/
theorem justifies_of_mem_findings {f : Finding} (hf : f ∈ l.findings lines) :
    l.Justifies lines f.line f.rule := by
  rcases no_tab_or_exists_first_tab lines with hno | ⟨A, line, B, rfl, hA, htab⟩
  · rw [l.findings_of_no_tab hno, List.mem_append, List.mem_flatMap, List.mem_flatMap] at hf
    rcases hf with ⟨x, hx, hf⟩ | ⟨x, hx, hf⟩
    · obtain ⟨rule, hrule, rfl⟩ := List.mem_map.1 hf
      exact justifies_of_mem_markerRules hx hrule
    · obtain ⟨rule, hrule, rfl⟩ := List.mem_map.1 hf
      have hnode := (Classifier.of_mem_sourcedNodes (here_mem_of_mem_contexts hx)).1
      exact justifies_of_mem_violations hnode hrule
  · rw [l.findings_of_hasLeadingTab hA htab, List.mem_singleton] at hf
    rw [hf]
    exact Text.hasLeadingTab_iff.1 htab

end Linter

/-! ### The order of findings -/

theorem Context.nodup_markerRules (x : Context Line) : x.markerRules.Nodup := by
  rw [markerRules]
  split
  · split <;> split <;> decide
  · split <;> split <;> decide
  · split <;> decide

theorem pairwise_length_before_contexts {α : Type} (l : List α) :
    (contexts l).Pairwise fun x y ↦ x.before.length < y.before.length := by
  rw [contexts_eq_map_finRange, List.pairwise_map]
  refine (List.pairwise_lt_finRange l.length).imp fun {i j} hij ↦ ?_
  rw [List.length_take_of_le (Nat.le_of_lt i.isLt), List.length_take_of_le (Nat.le_of_lt j.isLt)]
  exact hij

/-- The nodes of a document stand in the order of their lines. -/
theorem Classifier.pairwise_source_sourcedNodes (c : Classifier) (lines : List Line) :
    (c.sourcedNodes lines).Pairwise fun s t ↦ s.source < t.source := by
  refine List.Pairwise.filterMap _ ?_ (pairwise_length_before_contexts lines)
  intro x y hxy s hs t ht
  obtain ⟨-, -, rfl⟩ := Option.map_eq_some_iff.1 hs
  obtain ⟨-, -, rfl⟩ := Option.map_eq_some_iff.1 ht
  exact hxy

namespace Linter

variable (l : Linter)

/-- The number under which a finding is reported, before it becomes a 64-bit word. -/
def countOf (f : Finding) : ℕ :=
  if l.legacyLineNumbers then
    match f.rule.pass with
    | .tab => f.source + 2
    | .marker => f.source + 1
    | .structural => f.place + 2
  else f.source + 1

/-- A finding is reported at a smaller number than another, or at the same number for another
rule. -/
def Precedes (f g : Finding) : Prop :=
  l.countOf f < l.countOf g ∨ l.countOf f = l.countOf g ∧ f.rule ≠ g.rule

/-- What is found in order of numbers, place by place and each rule once, stands in order. -/
theorem pairwise_precedes_flatMap {α : Type} {places : List α} {rules : α → List Rule}
    {finding : α → Rule → Finding} (number : α → ℕ)
    (hrule : ∀ a rule, (finding a rule).rule = rule)
    (hnumber : ∀ a, ∀ rule ∈ rules a, l.countOf (finding a rule) = number a)
    (hnodup : ∀ a, (rules a).Nodup) (hlt : places.Pairwise fun a b ↦ number a < number b) :
    (places.flatMap fun a ↦ (rules a).map (finding a)).Pairwise l.Precedes := by
  refine List.pairwise_flatMap.2 ⟨fun a _ ↦ ?_, hlt.imp fun {a b} hab f hf g hg ↦ ?_⟩
  · refine List.pairwise_map.2 ((hnodup a).imp_of_mem fun {r s} hr hs hne ↦ Or.inr ⟨?_, ?_⟩)
    · rw [hnumber a r hr, hnumber a s hs]
    · rwa [hrule, hrule]
  · obtain ⟨r, hr, rfl⟩ := List.mem_map.1 hf
    obtain ⟨s, hs, rfl⟩ := List.mem_map.1 hg
    left
    rwa [hnumber a r hr, hnumber b s hs]

theorem pairwise_precedes_markers (lines : List Line) :
    ((contexts lines).flatMap Context.markerFindings).Pairwise l.Precedes := by
  refine l.pairwise_precedes_flatMap (fun x ↦ x.before.length + 1) (fun _ _ ↦ rfl) ?_
    Context.nodup_markerRules ((pairwise_length_before_contexts lines).imp Nat.succ_lt_succ)
  intro x rule hrule
  simp [countOf, Context.pass_of_mem_markerRules hrule]

theorem pairwise_precedes_nodes (lines : List Line) :
    ((contexts (l.sourcedNodes lines)).flatMap Context.nodeFindings).Pairwise l.Precedes := by
  have hplace := pairwise_length_before_contexts (l.sourcedNodes lines)
  have hsource : (contexts (l.sourcedNodes lines)).Pairwise
      fun x y ↦ x.here.source < y.here.source := by
    have hnodes := l.pairwise_source_sourcedNodes lines
    rw [← map_here_contexts (l.sourcedNodes lines)] at hnodes
    exact (List.pairwise_map (f := Context.here)).1 hnodes
  refine l.pairwise_precedes_flatMap
    (fun x ↦ if l.legacyLineNumbers then x.before.length + 2 else x.here.source + 1)
    (fun _ _ ↦ rfl) ?_ (fun _ ↦ Node.nodup_violations) ?_
  · intro x rule hrule
    simp [countOf, Node.pass_of_mem_violations hrule]
  · cases l.legacyLineNumbers with
    | false => exact hsource.imp Nat.succ_lt_succ
    | true => exact hplace.imp fun h ↦ Nat.add_lt_add_right h 2

/-! ### Numbers that do not wrap around -/

theorem numberOf_eq_ofNat_countOf {document : Text} {f : Finding}
    (hf : f ∈ l.findings (Line.split document)) : l.numberOf f = Int64.ofNat (l.countOf f) := by
  have hindex := Line.index_of_getElem?_split (l.getElem?_source_of_mem_findings hf)
  rw [numberOf, countOf, Line.number, hindex]
  cases l.legacyLineNumbers with
  | false => exact (Int64.ofNat_add _ _).symm
  | true =>
    cases f.rule.pass with
    | tab =>
      rw [if_pos rfl, if_pos rfl, Int64.add_assoc]
      exact (Int64.ofNat_add _ _).symm
    | marker => exact (Int64.ofNat_add _ _).symm
    | structural => exact (Int64.ofNat_add _ _).symm

variable {l}

theorem source_lt_of_mem_findings {lines : List Line} {f : Finding} (hf : f ∈ l.findings lines) :
    f.source < lines.length :=
  (List.getElem?_eq_some_iff.1 (l.getElem?_source_of_mem_findings hf)).1

theorem countOf_lt_of_mem_markers {document : Text} (hsize : document.size < 2 ^ 63) {f : Finding}
    (hf : f ∈ (contexts (Line.split document)).flatMap Context.markerFindings) :
    l.countOf f < 2 ^ 63 := by
  obtain ⟨x, hx, hf⟩ := List.mem_flatMap.1 hf
  obtain ⟨rule, hrule, rfl⟩ := List.mem_map.1 hf
  have hcount : l.countOf ⟨rule, x.here, x.before.length, 0⟩ = x.before.length + 1 := by
    simp [countOf, Context.pass_of_mem_markerRules hrule]
  have hlt : x.before.length < (Line.split document).length := by
    rw [mem_contexts_iff.1 hx, List.length_append, List.length_cons]
    omega
  have hlines := Line.length_split_le document
  have hrunes := Text.length_le_size document
  omega

theorem countOf_lt_of_mem_nodes {document : Text} (hsize : document.size < 2 ^ 63) {f : Finding}
    (hf : f ∈ (contexts (l.sourcedNodes (Line.split document))).flatMap Context.nodeFindings) :
    l.countOf f < 2 ^ 63 := by
  obtain ⟨x, hx, hf⟩ := List.mem_flatMap.1 hf
  obtain ⟨rule, hrule, rfl⟩ := List.mem_map.1 hf
  have hrunes := Text.length_le_size document
  have hlines := Line.length_split_le document
  cases hlegacy : l.legacyLineNumbers with
  | false =>
    have hcount : l.countOf ⟨rule, x.here.line, x.here.source, x.before.length⟩ =
        x.here.source + 1 := by simp [countOf, hlegacy]
    have hlt := (List.getElem?_eq_some_iff.1
      (Classifier.of_mem_sourcedNodes (here_mem_of_mem_contexts hx)).2).1
    omega
  | true =>
    have hcount : l.countOf ⟨rule, x.here.line, x.here.source, x.before.length⟩ =
        x.before.length + 2 := by
      simp [countOf, hlegacy, Node.pass_of_mem_violations hrule]
    have hlt : x.before.length < (l.sourcedNodes (Line.split document)).length := by
      rw [mem_contexts_iff.1 hx, List.length_append, List.length_cons]
      omega
    -- with positional numbering a node needs a line and a rune, so half of the range is left
    have hnodes := l.length_sourcedNodes_le (Line.split document)
    have htotal := Line.length_add_countP_split_le document
    have hcountP := List.countP_le_length (p := fun line : Line ↦ decide (line.text ≠ []))
      (l := Line.split document)
    omega

/-! ### The report -/

/-- Findings in order are reported in order of lines, and no two alike. -/
theorem pairwise_map_diagnose (document : Text) {fs : List Finding}
    (hfs : ∀ f ∈ fs, f ∈ l.findings (Line.split document))
    (hlt : ∀ f ∈ fs, l.countOf f < 2 ^ 63) (h : fs.Pairwise l.Precedes) :
    (fs.map l.diagnose).Pairwise fun d e ↦ d.line ≤ e.line ∧ (d.line, d.code) ≠ (e.line, e.code) := by
  refine List.pairwise_map.2 (h.imp_of_mem fun {f g} hf hg hfg ↦ ?_)
  have hnumber : ∀ f ∈ fs, (l.diagnose f).line.toInt = l.countOf f := by
    intro f hf
    have hline : (l.diagnose f).line = l.numberOf f := rfl
    rw [hline, l.numberOf_eq_ofNat_countOf (hfs f hf), Int64.toInt_ofNat_of_lt (hlt f hf)]
  rw [Int64.le_iff_toInt_le, Ne, Prod.mk.injEq, ← Int64.toInt_inj, hnumber f hf, hnumber g hg]
  rcases hfg with hcount | ⟨hcount, hrule⟩
  · exact ⟨by omega, fun he ↦ by omega⟩
  · exact ⟨by omega, fun he ↦ hrule (Rule.code_injective he.2)⟩

/-- The one finding of a document with a leading tab, or the findings of the two checks, each check's
in order. -/
theorem exists_findings_parts (l : Linter) {document : Text} (hsize : document.size < 2 ^ 63) :
    ∃ markers others, l.findings (Line.split document) = markers ++ others ∧
      (∀ f ∈ markers, f.rule.pass = .marker) ∧ (∀ f ∈ others, f.rule.pass ≠ .marker) ∧
      ((markers.map l.diagnose).Pairwise fun d e ↦
        d.line ≤ e.line ∧ (d.line, d.code) ≠ (e.line, e.code)) ∧
      ((others.map l.diagnose).Pairwise fun d e ↦
        d.line ≤ e.line ∧ (d.line, d.code) ≠ (e.line, e.code)) := by
  rcases no_tab_or_exists_first_tab (Line.split document) with hno | ⟨A, line, B, hAB, hA, htab⟩
  · have hfindings := l.findings_of_no_tab hno
    refine ⟨_, _, hfindings, fun f hf ↦ ?_, fun f hf ↦ ?_, ?_, ?_⟩
    · obtain ⟨x, -, hf⟩ := List.mem_flatMap.1 hf
      obtain ⟨rule, hrule, rfl⟩ := List.mem_map.1 hf
      exact Context.pass_of_mem_markerRules hrule
    · obtain ⟨x, -, hf⟩ := List.mem_flatMap.1 hf
      obtain ⟨rule, hrule, rfl⟩ := List.mem_map.1 hf
      simp [Node.pass_of_mem_violations hrule]
    · refine pairwise_map_diagnose document (fun f hf ↦ ?_) (fun f ↦ countOf_lt_of_mem_markers hsize)
        (l.pairwise_precedes_markers _)
      rw [hfindings]
      exact List.mem_append_left _ hf
    · refine pairwise_map_diagnose document (fun f hf ↦ ?_) (fun f ↦ countOf_lt_of_mem_nodes hsize)
        (l.pairwise_precedes_nodes _)
      rw [hfindings]
      exact List.mem_append_right _ hf
  · refine ⟨[], [⟨.tabIndentation, line, A.length, 0⟩], ?_, by simp, by simp [Rule.pass], by simp,
      by simp⟩
    rw [hAB, l.findings_of_hasLeadingTab hA htab, List.nil_append]

/-- **Every finding points at its culprit and is reported once.** The size of a document is a 64-bit
number. No two findings have the same line and the same code. The report is that of the marker check
and then what else is found, each in order of lines. By source line, every number is that of a line
of the document, and that line is to blame. -/
theorem lintText_culprits (l : Linter) (document : Text) (hsize : document.size < 2 ^ 63) :
    ((l.lintText document).map fun d ↦ (d.line, d.code)).Nodup ∧
    (∃ markers others, l.lintText document = markers ++ others ∧
      (∀ d ∈ markers, ∃ rule : Rule, rule.pass = .marker ∧ d.code = rule.code) ∧
      (∀ d ∈ others, ∃ rule : Rule, rule.pass ≠ .marker ∧ d.code = rule.code) ∧
      (markers.Pairwise fun d e ↦ d.line ≤ e.line) ∧
      others.Pairwise fun d e ↦ d.line ≤ e.line) ∧
    (l.legacyLineNumbers = false → ∀ d ∈ l.lintText document,
      1 ≤ d.line.toInt ∧ d.line.toInt ≤ (Line.split document).length ∧
      ∃ rule line, d.code = rule.code ∧
        (Line.split document)[d.line.toInt.toNat - 1]? = some line ∧
        l.Justifies (Line.split document) line rule) := by
  obtain ⟨markers, others, hfindings, hmarkers, hothers, hmorder, hoorder⟩ :=
    l.exists_findings_parts hsize
  have hlint : l.lintText document = markers.map l.diagnose ++ others.map l.diagnose := by
    rw [lintText, lint_eq_map_findings, hfindings, List.map_append]
  refine ⟨?_, ⟨_, _, hlint, ?_, ?_, hmorder.imp And.left, hoorder.imp And.left⟩, ?_⟩
  · rw [hlint, List.Nodup, List.pairwise_map, List.pairwise_append]
    refine ⟨hmorder.imp And.right, hoorder.imp And.right, fun d hd e he heq ↦ ?_⟩
    -- the two parts have no rule in common
    obtain ⟨f, hf, rfl⟩ := List.mem_map.1 hd
    obtain ⟨g, hg, rfl⟩ := List.mem_map.1 he
    have hrule : f.rule = g.rule := Rule.code_injective (Prod.mk.inj heq).2
    exact hothers g hg (hrule ▸ hmarkers f hf)
  · intro d hd
    obtain ⟨f, hf, rfl⟩ := List.mem_map.1 hd
    exact ⟨f.rule, hmarkers f hf, rfl⟩
  · intro d hd
    obtain ⟨f, hf, rfl⟩ := List.mem_map.1 hd
    exact ⟨f.rule, hothers f hf, rfl⟩
  · intro hlegacy d hd
    rw [lintText, lint_eq_map_findings] at hd
    obtain ⟨f, hf, rfl⟩ := List.mem_map.1 hd
    have hcount : l.countOf f = f.source + 1 := by simp [countOf, hlegacy]
    have hsource := source_lt_of_mem_findings hf
    have hlines := Line.length_split_le document
    have hrunes := Text.length_le_size document
    have hnumber : (l.diagnose f).line.toInt = f.source + 1 := by
      have hline : (l.diagnose f).line = l.numberOf f := rfl
      rw [hline, l.numberOf_eq_ofNat_countOf hf, Int64.toInt_ofNat_of_lt (by omega), hcount]
      rfl
    refine ⟨by omega, by omega, f.rule, f.line, rfl, ?_, justifies_of_mem_findings hf⟩
    have hposition : (l.diagnose f).line.toInt.toNat - 1 = f.source := by omega
    rw [hposition]
    exact l.getElem?_source_of_mem_findings hf

/-- Two findings on the first line, and the last line to blame for an end marker above it. -/
theorem lintText_culprits_two_keys :
    ({} : Linter).lintText (Text.ofString "k: v\n...\nm: w\n") =
      [.ofRule 2 .misplacedEnd, .ofRule 3 .endNotLastLine, .ofRule 1 .indentationNotEven,
        .ofRule 1 .keyMissingChild, .ofRule 3 .indentationNotEven] ∧
    ((({} : Linter).lintText (Text.ofString "k: v\n...\nm: w\n")).map
      fun d ↦ (d.line, d.code)).Nodup ∧
    ∃ line, (Line.split (Text.ofString "k: v\n...\nm: w\n"))[2]? = some line ∧
      ({} : Linter).Justifies (Line.split (Text.ofString "k: v\n...\nm: w\n")) line
        .endNotLastLine := by
  have hlint : ({} : Linter).lintText (Text.ofString "k: v\n...\nm: w\n") =
      [.ofRule 2 .misplacedEnd, .ofRule 3 .endNotLastLine, .ofRule 1 .indentationNotEven,
        .ofRule 1 .keyMissingChild, .ofRule 3 .indentationNotEven] := by decide
  obtain ⟨hnodup, -, hculprit⟩ :=
    lintText_culprits {} (Text.ofString "k: v\n...\nm: w\n") (by decide)
  obtain ⟨-, -, rule, line, hcode, hline, hjustified⟩ :=
    hculprit rfl (.ofRule 3 .endNotLastLine) (by rw [hlint]; decide)
  have hrule : rule = .endNotLastLine := Rule.code_injective hcode.symm
  exact ⟨hlint, hnodup, line, hline, hrule ▸ hjustified⟩

end Linter

end StructuralLint
