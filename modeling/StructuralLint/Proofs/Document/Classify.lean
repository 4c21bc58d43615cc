import Mathlib.Data.List.Forall2
import StructuralLint.Document.Classify
import StructuralLint.Proofs.Text.Trim

/-!
# What classification decides

The classifier walks over a text three times: for a tab, for the list marker and for the first
colon. Here each walk is replaced by a decomposition of the text, so that later proofs speak of
`before ++ ':' :: after` and never of `dropWhile`:

* `hasLeadingTab_iff`: a leading tab is spaces and then a tab;
* `KeySplit`, `keyKind?_eq_some_iff`: a key line is split at its first colon;
* `node?_eq_some_iff`: the node of a line, as one of two cases.

The kind is decided on the text as it stands and the pieces are cut from the trimmed text. Both see
the same first colon, since a colon is no blank (`KeySplit.cut_trim`), and so key and value are the
trimmed pieces of the *untrimmed* text.

`nodes` is the outline without the tab check; `outline_eq_ok` and `outline_eq_error` say that the
outline is this list, or the error of the first line with a leading tab.
-/

namespace StructuralLint

namespace Text

/-! ### Leading tabs -/

theorem takeWhile_space (t : Text) :
    t.takeWhile (Rune.isChar ' ') = List.replicate t.leadingSpaces (.char ' ') :=
  List.eq_replicate_iff.2 ⟨rfl, fun _ hr ↦ Rune.isChar_iff.1 (List.mem_takeWhile_imp hr)⟩

/-- A leading tab is a run of spaces, possibly empty, and then a tab. -/
theorem hasLeadingTab_iff {t : Text} :
    t.hasLeadingTab = true ↔
      ∃ (n : ℕ) (rest : Text), t = List.replicate n (.char ' ') ++ .char '\t' :: rest := by
  rw [hasLeadingTab, decide_eq_true_eq]
  constructor
  · intro h
    obtain ⟨rest, hrest⟩ := List.head?_eq_some_iff.1 h
    refine ⟨t.leadingSpaces, rest, ?_⟩
    rw [← takeWhile_space, ← hrest, List.takeWhile_append_dropWhile]
  · rintro ⟨n, rest, rfl⟩
    rw [List.dropWhile_append_of_pos (fun r hr ↦ Rune.isChar_iff.2 (List.eq_of_mem_replicate hr)),
      List.dropWhile_cons_of_neg (by simp), List.head?_cons]

theorem isBlank_iff {t : Text} : t.isBlank = true ↔ t.trim = [] := List.isEmpty_iff

/-! ### Key lines -/

/-- **A key line**, split at its first colon. The first rune that the key grammar does not pass
over stands before the colon and is no `#`. -/
structure KeySplit (t before after : Text) : Prop where
  /-- The text is put together from the pieces. -/
  eq_append : t = before ++ .char ':' :: after
  /-- The colon is the first one. -/
  not_mem : .char ':' ∉ before
  /-- There is something before the colon that may start a key. -/
  exists_start : ∃ r, (before.find? fun r ↦ !r.isPatternSpace) = some r ∧ r ≠ .char '#'

/-- The kind of a key line, by what stands after its colon. -/
def kindAfter (after : Text) : Kind :=
  if after.all Rune.isPatternSpace then .bareKey else .keyValuePair

theorem kindAfter_eq_bareKey_iff {after : Text} :
    kindAfter after = .bareKey ↔ ∀ r ∈ after, r.isPatternSpace = true := by
  rw [kindAfter, ← List.all_eq_true]
  split <;> simp_all

theorem kindAfter_eq_keyValuePair_iff {after : Text} :
    kindAfter after = .keyValuePair ↔ ∃ r ∈ after, r.isPatternSpace = false := by
  rw [kindAfter]
  split <;> simp_all

/-- A bare key has nothing to trim. -/
theorem trim_eq_nil_of_kindAfter {after : Text} (h : kindAfter after = .bareKey) :
    after.trim = [] :=
  trim_eq_nil_iff.2 fun r hr ↦ Rune.isBlank_of_isPatternSpace (kindAfter_eq_bareKey_iff.1 h r hr)

theorem afterKey?_eq_some_iff {t after : Text} :
    afterKey? t = some after ↔ ∃ before, KeySplit t before after := by
  constructor
  · intro h
    rw [afterKey?] at h
    rcases hd : t.dropWhile Rune.isPatternSpace with - | ⟨r, rest⟩
    · simp [hd] at h
    · simp only [hd] at h
      split at h
      · simp at h
      · next hr =>
        rw [not_or] at hr
        obtain ⟨a, ha, rfl⟩ := cut_snd_eq_some_iff.1 h
        have hpass : r.isPatternSpace = false := by
          have h' := List.head?_dropWhile_not Rune.isPatternSpace t
          rwa [hd] at h'
        refine ⟨t.takeWhile Rune.isPatternSpace ++ r :: a, ?_, ?_, r, ?_, hr.1⟩
        · rw [List.append_assoc, List.cons_append, ← hd, List.takeWhile_append_dropWhile]
        · simp only [List.mem_append, List.mem_cons, not_or]
          exact ⟨fun hmem ↦ absurd (List.mem_takeWhile_imp hmem) (by decide), Ne.symm hr.2, ha⟩
        · rw [List.find?_not_eq_head?_dropWhile,
            List.dropWhile_append_of_pos (fun _ ↦ List.mem_takeWhile_imp),
            List.dropWhile_cons_of_neg (by simp [hpass]), List.head?_cons]
  · rintro ⟨before, rfl, hmem, r, hr, hhash⟩
    rw [List.find?_not_eq_head?_dropWhile] at hr
    obtain ⟨a, ha⟩ := List.head?_eq_some_iff.1 hr
    have hsub : ∀ s ∈ r :: a, s ∈ before := by
      rw [← ha]
      exact (List.dropWhile_suffix _).subset
    have hcolon : r ≠ .char ':' := fun he ↦ hmem (he ▸ hsub r (by simp))
    have hrest : .char ':' ∉ a := fun h ↦ hmem (hsub _ (List.mem_cons_of_mem _ h))
    have hdrop : (before ++ .char ':' :: after).dropWhile Rune.isPatternSpace =
        r :: (a ++ .char ':' :: after) := by
      rw [List.dropWhile_append, ha]
      rfl
    rw [afterKey?, hdrop]
    simp only [hhash, hcolon, or_self, if_false, cut_append_cons hrest]

/-- Without a colon in it, what is appended comes after the first colon. -/
theorem keySplit_append_iff {v : Text} (h : .char ':' ∉ v) {t before after : Text} :
    KeySplit (t ++ v) before after ↔ ∃ rest, after = rest ++ v ∧ KeySplit t before rest := by
  constructor
  · rintro ⟨happ, hmem, hstart⟩
    obtain ⟨u, rfl, hv⟩ | ⟨u, rfl, hu⟩ := List.append_eq_append_iff.1 happ
    · exact absurd (hv ▸ by simp) h
    · rcases u with - | ⟨r, u⟩
      · rw [List.nil_append] at hu
        exact absurd (hu ▸ List.mem_cons_self) h
      · obtain ⟨rfl, rfl⟩ := List.cons.inj hu
        exact ⟨u, rfl, rfl, hmem, hstart⟩
  · rintro ⟨rest, rfl, rfl, hmem, hstart⟩
    exact ⟨by simp, hmem, hstart⟩

theorem afterKey?_append {v : Text} (h : .char ':' ∉ v) (t : Text) :
    afterKey? (t ++ v) = (afterKey? t).map (· ++ v) := by
  ext after
  simp only [afterKey?_eq_some_iff, keySplit_append_iff h, Option.map_eq_some_iff]
  constructor
  · rintro ⟨before, rest, rfl, hsplit⟩
    exact ⟨rest, ⟨before, hsplit⟩, rfl⟩
  · rintro ⟨rest, ⟨before, hsplit⟩, rfl⟩
    exact ⟨before, rest, rfl, hsplit⟩

theorem keyKind?_eq_some_iff {t : Text} {kind : Kind} :
    keyKind? t = some kind ↔
      ∃ before after, KeySplit t before after ∧ kind = kindAfter after := by
  rw [keyKind?, Option.map_eq_some_iff]
  constructor
  · rintro ⟨after, h, rfl⟩
    obtain ⟨before, hsplit⟩ := afterKey?_eq_some_iff.1 h
    exact ⟨before, after, hsplit, rfl⟩
  · rintro ⟨before, after, hsplit, rfl⟩
    exact ⟨after, afterKey?_eq_some_iff.2 ⟨before, hsplit⟩, rfl⟩

/-- **The trimmed text is cut at the same colon.** -/
theorem KeySplit.cut_trim {t before after : Text} (h : KeySplit t before after) :
    cut ':' t.trim = (before.trimStart, some after.trimEnd) := by
  rw [h.eq_append, trim_append_cons (by decide)]
  exact cut_append_cons (fun hmem ↦ h.not_mem ((List.dropWhile_suffix _).subset hmem)) _

/-- A text has one first colon. -/
theorem KeySplit.cut_eq {t before after : Text} (h : KeySplit t before after) :
    cut ':' t = (before, some after) := by
  rw [h.eq_append, cut_append_cons h.not_mem]

end Text

namespace Classifier

variable {c : Classifier} {line : Line} {node : Node}

/-! ### The node of a line -/

/-- **The two kinds of lines that yield a node.** In a key line, what follows the colon is trimmed
whatever the kind: of a bare key it leaves nothing. -/
theorem node?_eq_some_iff :
    c.node? line = some node ↔
      (∃ rest, line.text.trim = .char '-' :: .char ' ' :: rest ∧
        node = ⟨c.indent line.text, .listItem, listMarker, Text.trim rest, line.number⟩) ∨
      (∀ rest, line.text.trim ≠ .char '-' :: .char ' ' :: rest) ∧
        ∃ before after, line.text.KeySplit before after ∧
          node = ⟨c.indent line.text, Text.kindAfter after, before.trim, after.trim,
            line.number⟩ := by
  rw [node?]
  split
  · next rest hrest =>
    rw [hrest]
    simp [eq_comm]
  · next hrest =>
    have hno : ∀ rest, line.text.trim ≠ .char '-' :: .char ' ' :: rest := fun rest h ↦ hrest rest h
    have hnot : ¬ ∃ rest, line.text.trim = .char '-' :: .char ' ' :: rest ∧
        node = ⟨c.indent line.text, .listItem, listMarker, Text.trim rest, line.number⟩ :=
      fun ⟨rest, h, _⟩ ↦ hno rest h
    have hvalue : ∀ after : Text,
        (if Text.kindAfter after = .bareKey then [] else Text.trim after.trimEnd) = after.trim := by
      intro after
      rw [Text.trim_trimEnd]
      split
      · next h => rw [Text.trim_eq_nil_of_kindAfter h]
      · rfl
    rw [or_iff_right hnot, and_iff_right hno, Option.map_eq_some_iff]
    constructor
    · rintro ⟨kind, hkind, rfl⟩
      obtain ⟨before, after, hsplit, rfl⟩ := Text.keyKind?_eq_some_iff.1 hkind
      refine ⟨before, after, hsplit, ?_⟩
      rw [hsplit.cut_trim]
      simp only [Option.getD_some, hvalue, Text.trim_trimStart]
    · rintro ⟨before, after, hsplit, rfl⟩
      refine ⟨_, Text.keyKind?_eq_some_iff.2 ⟨before, after, hsplit, rfl⟩, ?_⟩
      rw [hsplit.cut_trim]
      simp only [Option.getD_some, hvalue, Text.trim_trimStart]

/-! ### The result for a line -/

theorem classify_eq_error_iff {e : TabError} :
    c.classify line = .error e ↔ line.text.hasLeadingTab = true ∧ e = ⟨line.number⟩ := by
  rw [classify]
  split
  · next h => simp [h, eq_comm]
  · next h =>
    split <;> simp [h]

theorem classify_eq_some_iff :
    c.classify line = .ok (some node) ↔
      line.text.hasLeadingTab = false ∧ line.text.isBlank = false ∧
        c.isComment line.text = false ∧ c.node? line = some node := by
  rw [classify]
  split
  · next h => simp [h]
  · next h =>
    split
    · next h' =>
      rw [Bool.or_eq_true] at h'
      rcases h' with h' | h' <;> simp [h']
    · next h' =>
      rw [Bool.or_eq_true, not_or] at h'
      simp [h, h'.1, h'.2]

/-- A line that is seen to be none of the three is looked at for its node. -/
theorem classify_eq_ok_node? (htab : line.text.hasLeadingTab = false) (hblank : line.text.trim ≠ [])
    (hcomment : c.isComment line.text = false) : c.classify line = .ok (c.node? line) := by
  have hvisible : line.text.isBlank = false := by
    rw [← Bool.not_eq_true, Text.isBlank_iff]
    exact hblank
  rw [classify, htab, hvisible, hcomment]
  rfl

theorem node?_of_classify (h : c.classify line = .ok (some node)) : c.node? line = some node :=
  (classify_eq_some_iff.1 h).2.2.2

/-- What of a node does not depend on the kind of its line. -/
theorem indent_line_of_classify (h : c.classify line = .ok (some node)) :
    node.indent = c.indent line.text ∧ node.line = line.number := by
  obtain ⟨rest, -, rfl⟩ | ⟨-, before, after, -, rfl⟩ := node?_eq_some_iff.1 (node?_of_classify h)
  · exact ⟨rfl, rfl⟩
  · exact ⟨rfl, rfl⟩

/-- **Only known kinds are yielded**: what is no list item is a key. -/
theorem isKey_iff_of_classify (h : c.classify line = .ok (some node)) :
    node.kind.isKey = true ↔ node.kind ≠ .listItem := by
  obtain ⟨rest, -, rfl⟩ | ⟨-, before, after, -, rfl⟩ := node?_eq_some_iff.1 (node?_of_classify h)
  · simp [Kind.isKey]
  · rw [Text.kindAfter]
    split <;> simp [Kind.isKey]

/-! ### The nodes of a document -/

/-- The node that a line yields, if any. -/
def nodeOf? (c : Classifier) (line : Line) : Option Node :=
  match c.classify line with
  | .ok found => found
  | .error _ => none

/-- Three reasons to yield nothing come before the node is looked for. -/
theorem nodeOf?_eq_ite (c : Classifier) (line : Line) :
    c.nodeOf? line =
      if line.text.hasLeadingTab || line.text.isBlank || c.isComment line.text then none
      else c.node? line := by
  rw [nodeOf?, classify]
  cases line.text.hasLeadingTab <;> cases line.text.isBlank <;> cases c.isComment line.text <;> rfl

theorem nodeOf?_eq_some_iff : c.nodeOf? line = some node ↔ c.classify line = .ok (some node) := by
  rw [nodeOf?]
  split
  · next found h => simp [h]
  · next e h => simp [h]

/-- A line is skipped when it has no leading tab and yields no node. -/
theorem classify_eq_none_iff :
    c.classify line = .ok none ↔ line.text.hasLeadingTab = false ∧ c.nodeOf? line = none := by
  rcases h : c.classify line with e | found
  · simp [(classify_eq_error_iff.1 h).1]
  · have htab : line.text.hasLeadingTab = false := by
      rw [← Bool.not_eq_true]
      intro htab
      rw [classify_eq_error_iff.2 ⟨htab, rfl⟩] at h
      exact absurd h (by simp)
    simp [nodeOf?, h, htab]

/-- The nodes that the lines of a document yield, in order. -/
def nodes (c : Classifier) (lines : List Line) : Outline :=
  lines.filterMap c.nodeOf?

theorem mem_nodes_iff {lines : List Line} :
    node ∈ c.nodes lines ↔ ∃ line ∈ lines, c.classify line = .ok (some node) := by
  simp only [nodes, List.mem_filterMap, nodeOf?_eq_some_iff]

/-- **Without a leading tab the outline is the list of nodes.** -/
theorem outline_eq_ok {lines : List Line}
    (h : ∀ line ∈ lines, line.text.hasLeadingTab = false) : c.outline lines = .ok (c.nodes lines) := by
  induction lines with
  | nil => rfl
  | cons line lines ih =>
    have hline : line.text.hasLeadingTab = false := h line (by simp)
    have htail := ih fun l hl ↦ h l (List.mem_cons_of_mem _ hl)
    rw [outline, nodes, List.filterMap_cons, nodeOf?]
    rcases hc : c.classify line with e | - | node
    · exact absurd (classify_eq_error_iff.1 hc).1 (by simp [hline])
    · exact htail
    · rw [htail]
      rfl

/-- **The first leading tab decides**, whatever comes after it. -/
theorem outline_eq_error {A B : List Line} {line : Line}
    (hA : ∀ l ∈ A, l.text.hasLeadingTab = false) (hline : line.text.hasLeadingTab = true) :
    c.outline (A ++ line :: B) = .error ⟨line.number⟩ := by
  induction A with
  | nil =>
    rw [List.nil_append, outline, classify_eq_error_iff.2 ⟨hline, rfl⟩]
  | cons l A ih =>
    have hl : l.text.hasLeadingTab = false := hA l (by simp)
    have htail := ih fun l' hl' ↦ hA l' (List.mem_cons_of_mem _ hl')
    rw [List.cons_append, outline, htail]
    rcases hc : c.classify l with e | - | node
    · exact absurd (classify_eq_error_iff.1 hc).1 (by simp [hl])
    · rfl
    · rfl

end Classifier

end StructuralLint
