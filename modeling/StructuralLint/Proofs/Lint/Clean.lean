import Mathlib.Data.List.Chain
import StructuralLint.Proofs.Lint.Check

/-!
# Clean documents

A document without findings is one that six rules allow. `Linter.Clean` states them without a walk,
a flag or an outline in construction, and `lint_eq_nil_iff` says that the linter finds nothing in
exactly these documents, whatever its settings.

The two checks are settled apart. For markers, the flag "a start was seen" is traded for the first
start marker of the document (`checkMarkers_eq_nil_iff`); the rule on the last line adds nothing, as
an end marker elsewhere is reported on its own. For structure, every node that a line yields has a
known kind, so that a list item is an orphan only in front of all nodes and a key is childless only
in front of a key (`validate_eq_nil_iff`).
-/

namespace StructuralLint

/-! ### Markers -/

theorem Context.markerRules_eq_nil_iff {before after : List Line} {line : Line} :
    Context.markerRules ⟨before, line, after⟩ = [] ↔
      (line.marker? = some .start → before = [] ∨ ∃ b ∈ before, b.marker? = some .start) ∧
      (line.marker? = some .finish → after = []) ∧
      (after = [] → (∃ b ∈ before, b.marker? = some .finish) → line.marker? = some .finish) := by
  rw [markerRules, List.append_eq_nil_iff]
  rcases line.marker? with - | marker
  · simp
  · cases marker with
    | start => simp [or_iff_not_imp_left]
    | finish => simp

/-- **No marker finding**: a start marker below the first line has one on the first line, and end
markers are last. -/
theorem checkMarkers_eq_nil_iff {lines : List Line} :
    checkMarkers lines = [] ↔
      (∀ i line, 0 < i → lines[i]? = some line → line.marker? = some .start →
        ∃ first, lines[0]? = some first ∧ first.marker? = some .start) ∧
      (∀ i line, lines[i]? = some line → line.marker? = some .finish → i + 1 = lines.length) := by
  rw [checkMarkers_eq_flatMap, List.flatMap_eq_nil_iff, forall_mem_contexts_iff]
  simp only [List.map_eq_nil_iff, Context.markerRules_eq_nil_iff]
  constructor
  · intro h
    constructor
    · intro i line _ hi hstart
      -- the first start marker has none before it, so it has nothing before it
      have hsome : (lines.find? fun l ↦ l.marker? = some .start).isSome = true := by
        rw [List.find?_isSome]
        exact ⟨line, List.mem_of_getElem? hi, by simpa using hstart⟩
      obtain ⟨first, hfirst⟩ := Option.isSome_iff_exists.1 hsome
      obtain ⟨hmark, before, after, rfl, hbefore⟩ := List.find?_eq_some_iff_append.1 hfirst
      have hmark' : first.marker? = some .start := by simpa using hmark
      rcases (h before first after rfl).1 hmark' with rfl | ⟨b, hb, hb'⟩
      · exact ⟨first, rfl, hmark'⟩
      · exact absurd hb' (by simpa using hbefore b hb)
    · intro i line hi hend
      obtain ⟨before, after, rfl, rfl⟩ := getElem?_eq_some_iff_append.1 hi
      rw [(h before line after rfl).2.1 hend, List.length_append, List.length_singleton]
  · rintro ⟨hstart, hend⟩ before line after rfl
    refine ⟨fun hmark ↦ ?_, fun hmark ↦ ?_, fun hafter ⟨b, hb, hb'⟩ ↦ ?_⟩
    · rcases before with - | ⟨b, before⟩
      · exact Or.inl rfl
      · obtain ⟨first, hfirst, hfirst'⟩ := hstart (b :: before).length line (by simp)
          (getElem?_eq_some_iff_append.2 ⟨_, _, rfl, rfl⟩) hmark
        have hb : b = first := Option.some.inj hfirst
        exact Or.inr ⟨b, by simp, hb ▸ hfirst'⟩
    · have hlast := hend before.length line (getElem?_eq_some_iff_append.2 ⟨_, _, rfl, rfl⟩) hmark
      rw [List.length_append, List.length_cons] at hlast
      exact List.eq_nil_of_length_eq_zero (by omega)
    · -- an end marker before the last line is not last
      obtain ⟨u, v, rfl⟩ := List.append_of_mem hb
      have hlast := hend u.length b (getElem?_eq_some_iff_append.2 ⟨u, v ++ line :: after,
        by rw [List.append_assoc, List.cons_append], rfl⟩) hb'
      simp only [List.length_append, List.length_cons] at hlast
      omega

/-! ### Structure -/

/-- **No structural finding**, when every node is a list item or a key: the indents are even, no
list item comes first, and no key follows a key. -/
theorem Outline.validate_eq_nil_iff {numbering : Numbering} {outline : Outline}
    (hkey : ∀ node ∈ outline, node.kind.isKey = true ↔ node.kind ≠ .listItem) :
    outline.validate numbering = [] ↔
      (∀ node ∈ outline, node.isOdd = false) ∧
      (∀ node, outline.head? = some node → node.kind ≠ .listItem) ∧
      outline.IsChain fun a b ↦ ¬ (a.kind.isKey = true ∧ b.kind.isKey = true) := by
  have hknown : ∀ node ∈ outline, node.kind.isKnown = true := by
    intro node hnode
    have h := hkey node hnode
    cases hk : node.kind with
    | unknown code => simp [hk, Kind.isKey] at h
    | _ => rfl
  rw [validate_eq_flatMap, List.flatMap_eq_nil_iff, forall_mem_contexts_iff,
    List.isChain_iff_forall_rel_of_append_cons_cons]
  simp only [List.map_eq_nil_iff, Context.nodeRules, Node.violations, List.append_eq_nil_iff]
  constructor
  · intro h
    refine ⟨fun node hnode ↦ ?_, fun node hhead ↦ ?_, fun a b before after hab ↦ ?_⟩
    · obtain ⟨before, after, rfl⟩ := List.append_of_mem hnode
      simpa using (h before node after rfl).1.1
    · obtain ⟨after, rfl⟩ := List.head?_eq_some_iff.1 hhead
      simpa [Node.isOrphan] using (h [] node after rfl).1.2
    · have hb : b ∈ outline := by simp [hab]
      have hchild := (h before a (b :: after) hab).2
      rintro ⟨ha, hb'⟩
      simp [Node.isChildless, ha, (hkey b hb).1 hb'] at hchild
  · rintro ⟨heven, hhead, hchain⟩ before node after rfl
    refine ⟨⟨?_, ?_⟩, ?_⟩
    · simp [heven node (by simp)]
    · rcases List.eq_nil_or_concat before with rfl | ⟨before, b, rfl⟩
      · simp [Node.isOrphan, hhead node rfl]
      · simp [Node.isOrphan, hknown b (by simp)]
    · rcases after with - | ⟨b, after⟩
      · simp [Node.isChildless]
      · have hab := @hchain node b before after rfl
        rw [hkey b (by simp)] at hab
        simpa [Node.isChildless] using hab

/-! ### Indents -/

theorem ofNat_mod_two_eq_zero_iff (n : ℕ) : Int64.ofNat n % 2 = 0 ↔ 2 ∣ n := by
  have htwo : (2 : Int64).toInt = 2 := rfl
  have hzero : (0 : Int64).toInt = 0 := rfl
  rw [← Int64.toInt_inj, Int64.toInt_mod, htwo, hzero, Int64.toInt_ofNat',
    ← Int.dvd_iff_tmod_eq_zero, Int64.size, Int.bmod_def]
  split <;> omega

/-- The indent of a node is even when its line has an even number of leading spaces and, with the
fallback, at least one. -/
theorem Classifier.isOdd_eq_false_iff {c : Classifier} {line : Line} {node : Node}
    (h : c.classify line = .ok (some node)) :
    node.isOdd = false ↔
      2 ∣ line.text.leadingSpaces ∧ (c.zeroIndentFallback = true → 0 < line.text.leadingSpaces) := by
  rw [Node.isOdd, decide_eq_false_iff_not, not_not, (indent_line_of_classify h).1, indent]
  split
  · next h =>
    rw [h.1, h.2]
    exact ⟨fun he ↦ absurd he (by decide), fun he ↦ absurd (he.2 rfl) (by decide)⟩
  · next h =>
    rw [ofNat_mod_two_eq_zero_iff]
    refine ⟨fun hdvd ↦ ⟨hdvd, fun hon ↦ ?_⟩, fun he ↦ he.1⟩
    exact Nat.pos_of_ne_zero fun hzero ↦ h ⟨hzero, hon⟩

/-! ### The whole document -/

namespace Linter

/-- **A clean document**, for the settings of a linter. -/
structure Clean (l : Linter) (lines : List Line) : Prop where
  /-- No line starts with spaces, possibly none, and then a tab. -/
  no_tab : ∀ line ∈ lines,
    ¬ ∃ (n : ℕ) (rest : Text), line.text = List.replicate n (.char ' ') ++ .char '\t' :: rest
  /-- A start marker below the first line has one on the first line. -/
  start_first : ∀ i line, 0 < i → lines[i]? = some line →
    line.text.trim = Text.ofString "---" →
    ∃ first, lines[0]? = some first ∧ first.text.trim = Text.ofString "---"
  /-- An end marker is the last line. -/
  end_last : ∀ i line, lines[i]? = some line → line.text.trim = Text.ofString "..." →
    i + 1 = lines.length
  /-- A line that yields a node has an even number of leading spaces, and some with the fallback. -/
  even_indent : ∀ line ∈ lines, ∀ node, l.classify line = .ok (some node) →
    2 ∣ line.text.leadingSpaces ∧ (l.zeroIndentFallback = true → 0 < line.text.leadingSpaces)
  /-- The first line that yields a node yields no list item. -/
  first_not_listItem : ∀ node, (l.nodes lines).head? = some node → node.kind ≠ .listItem
  /-- Of two lines in succession that yield a node, one yields no key. -/
  no_adjacent_keys : (l.nodes lines).IsChain fun a b ↦ ¬ (a.kind.isKey = true ∧ b.kind.isKey = true)

/-- **The linter finds nothing exactly in clean documents.** -/
theorem lint_eq_nil_iff (l : Linter) (lines : List Line) :
    l.lint lines = [] ↔ l.Clean lines := by
  rcases no_tab_or_exists_first_tab lines with hno | ⟨A, line, B, rfl, hA, htab⟩
  · have hnodes : ∀ node ∈ l.nodes lines, node.kind.isKey = true ↔ node.kind ≠ .listItem := by
      intro node hnode
      obtain ⟨line, -, h⟩ := Classifier.mem_nodes_iff.1 hnode
      exact Classifier.isKey_iff_of_classify h
    rw [l.lint_of_no_tab hno, List.append_eq_nil_iff, checkMarkers_eq_nil_iff,
      Outline.validate_eq_nil_iff hnodes]
    simp only [Line.marker?_eq_start_iff, Line.marker?_eq_finish_iff]
    constructor
    · rintro ⟨⟨hstart, hend⟩, heven, hfirst, hkeys⟩
      refine ⟨fun line hline h ↦ ?_, hstart, hend, fun line hline node h ↦ ?_, hfirst, hkeys⟩
      · exact absurd (Text.hasLeadingTab_iff.2 h) (by simp [hno line hline])
      · exact (Classifier.isOdd_eq_false_iff h).1
          (heven node (Classifier.mem_nodes_iff.2 ⟨line, hline, h⟩))
    · intro hclean
      refine ⟨⟨hclean.start_first, hclean.end_last⟩, fun node hnode ↦ ?_,
        hclean.first_not_listItem, hclean.no_adjacent_keys⟩
      obtain ⟨line, hline, h⟩ := Classifier.mem_nodes_iff.1 hnode
      exact (Classifier.isOdd_eq_false_iff h).2 (hclean.even_indent line hline node h)
  · rw [l.lint_of_hasLeadingTab hA htab]
    refine iff_of_false (List.cons_ne_nil _ _) fun hclean ↦ ?_
    exact hclean.no_tab line (by simp) (Text.hasLeadingTab_iff.1 htab)

end Linter

end StructuralLint
