import Mathlib.Data.List.Chain
import StructuralLint.Proofs.Lint.Finding

/-!
# Neighbours in an outline

The structural check asks two questions about neighbours: whether a known kind stands before a list
item, and whether something other than a list item stands after a key. Outlines made by hand may hold
unknown kinds, so neither question is one about keys and list items only.

In the outline of a document they are. Every node of such an outline is a list item or a key
(`isKey_iff_of_mem_outline`), so a list item has an owner unless it comes first, and a key lacks a child
exactly when a key follows it. `validate_neighbours` is the result, with the findings of each rule
in order and by position.

`filter_code_validate` is the bridge: of any rule, the check reports one finding per node that breaks
it, in the order of the nodes.
-/

namespace StructuralLint

/-- What yields at most one result per element yields it for the elements that pass. -/
theorem flatMap_ite_singleton {α β : Type} (l : List α) (p : α → Bool) (f : α → β) :
    (l.flatMap fun a ↦ if p a then [f a] else []) = (l.filter p).map f := by
  induction l with
  | nil => rfl
  | cons a l ih =>
    rw [List.flatMap_cons, ih, List.filter_cons]
    split <;> rfl

/-! ### The rules of one node -/

namespace Node

variable {before after : Option Node} {node : Node}

theorem indentationNotEven_mem_violations :
    .indentationNotEven ∈ violations before node after ↔ node.isOdd = true := by
  simp [violations]

theorem orphanListItem_mem_violations :
    .orphanListItem ∈ violations before node after ↔ isOrphan before node = true := by
  simp [violations]

theorem keyMissingChild_mem_violations :
    .keyMissingChild ∈ violations before node after ↔ isChildless node after = true := by
  simp [violations]

/-- A node breaks each rule at most once. -/
theorem nodup_violations : (violations before node after).Nodup := by
  rw [violations]
  cases node.isOdd <;> cases isOrphan before node <;> cases isChildless node after <;> decide

theorem filter_violations (rule : Rule) :
    (violations before node after).filter (fun r ↦ r = rule) =
      if rule ∈ violations before node after then [rule] else [] := by
  rw [List.filter_eq]
  split
  · next h =>
    rw [List.count_eq_one_of_mem nodup_violations h]
    rfl
  · next h =>
    rw [List.count_eq_zero_of_not_mem h]
    rfl

end Node

namespace Outline

variable {outline : Outline}

/-! ### Findings by position -/

/-- The rules that the node at a position breaks. -/
def rulesAt (outline : Outline) (i : Fin outline.length) : List Rule :=
  Node.violations (outline.take i).getLast? outline[i] outline[(i : ℕ) + 1]?

/-- **The structural check, position by position.** -/
theorem validate_eq_flatMap_finRange (numbering : Numbering) (outline : Outline) :
    outline.validate numbering = (List.finRange outline.length).flatMap fun i ↦
      (outline.rulesAt i).map (Diagnostic.ofRule (numbering.lineOf i outline[i])) := by
  rw [validate_eq_flatMap, contexts_eq_map_finRange, List.flatMap_map]
  refine List.flatMap_congr fun i _ ↦ ?_
  have hlength : (outline.take i).length = i := List.length_take_of_le (Nat.le_of_lt i.isLt)
  simp only [Context.nodeRules, rulesAt, hlength, List.head?_drop]

/-- **The findings of one rule**: one for each node that breaks it, in order. -/
theorem filter_code_validate (numbering : Numbering) (outline : Outline) (rule : Rule) :
    (outline.validate numbering).filter (fun d ↦ d.code = rule.code) =
      ((List.finRange outline.length).filter fun i ↦ rule ∈ outline.rulesAt i).map
        fun i : Fin outline.length ↦ Diagnostic.ofRule (numbering.lineOf i outline[i]) rule := by
  have hnode : ∀ i : Fin outline.length,
      ((outline.rulesAt i).map (Diagnostic.ofRule (numbering.lineOf i outline[i]))).filter
          (fun d ↦ d.code = rule.code) =
        if rule ∈ outline.rulesAt i then [Diagnostic.ofRule (numbering.lineOf i outline[i]) rule]
        else [] := by
    intro i
    -- a finding is picked by its code, and the code tells its rule
    have hcode : (fun d : Diagnostic ↦ decide (d.code = rule.code)) ∘
        Diagnostic.ofRule (numbering.lineOf i outline[i]) = fun r ↦ decide (r = rule) := by
      funext r
      exact decide_eq_decide.2 Rule.code_injective.eq_iff
    rw [List.filter_map, hcode, rulesAt, Node.filter_violations]
    split <;> rfl
  rw [validate_eq_flatMap_finRange, List.filter_flatMap, ← flatMap_ite_singleton]
  simp only [hnode, decide_eq_true_eq]

/-! ### Known kinds -/

/-- The positions of keys that a key follows. -/
def keyPairs (outline : Outline) : List (Fin outline.length) :=
  (List.finRange outline.length).filter fun i ↦
    outline[i].kind.isKey && outline[(i : ℕ) + 1]?.any (·.kind.isKey)

theorem mem_keyPairs {i : Fin outline.length} :
    i ∈ outline.keyPairs ↔ outline[i].kind.isKey = true ∧
      ∃ next, outline[(i : ℕ) + 1]? = some next ∧ next.kind.isKey = true := by
  simp [keyPairs, Option.any_eq_true]

/-- A list item has an owner unless it comes first. -/
theorem orphanListItem_mem_rulesAt (hknown : ∀ node ∈ outline, node.kind.isKnown = true)
    {i : Fin outline.length} :
    .orphanListItem ∈ outline.rulesAt i ↔ (i : ℕ) = 0 ∧ outline[i].kind = .listItem := by
  rw [rulesAt, Node.orphanListItem_mem_violations, Node.isOrphan]
  rcases hlast : (outline.take i).getLast? with - | before
  · -- nothing stands before the first node only
    have hzero : (i : ℕ) = 0 := by
      have hlength := congrArg List.length (List.getLast?_eq_none_iff.1 hlast)
      rw [List.length_take_of_le (Nat.le_of_lt i.isLt)] at hlength
      exact hlength
    simp [hzero]
  · -- what stands before has a known kind, so it may own the list item
    have hbefore : before ∈ outline.take i := List.mem_of_getLast? hlast
    have hpos : (i : ℕ) ≠ 0 := by
      intro hzero
      rw [hzero] at hbefore
      simp at hbefore
    simp [hknown before (List.mem_of_mem_take hbefore), hpos]

/-- A key lacks a child exactly when a key follows it. -/
theorem keyMissingChild_mem_rulesAt
    (hkey : ∀ node ∈ outline, node.kind.isKey = true ↔ node.kind ≠ .listItem)
    {i : Fin outline.length} :
    .keyMissingChild ∈ outline.rulesAt i ↔ i ∈ outline.keyPairs := by
  rw [rulesAt, Node.keyMissingChild_mem_violations, Node.isChildless, mem_keyPairs,
    Bool.and_eq_true, Option.any_eq_true]
  refine and_congr_right fun _ ↦ exists_congr fun next ↦ and_congr_right fun hnext ↦ ?_
  rw [hkey next (List.mem_of_getElem? hnext), decide_eq_true_eq]

/-- **The orphans** of an outline of known kinds: its first node, if that is a list item. -/
theorem filter_orphanListItem_validate (hknown : ∀ node ∈ outline, node.kind.isKnown = true)
    (numbering : Numbering) :
    (outline.validate numbering).filter (fun d ↦ d.code = Rule.orphanListItem.code) =
      ((outline.head?.filter fun node ↦ node.kind = .listItem).map fun node ↦
        Diagnostic.ofRule (numbering.lineOf 0 node) .orphanListItem).toList := by
  rw [filter_code_validate]
  simp only [orphanListItem_mem_rulesAt hknown]
  cases outline with
  | nil => rfl
  | cons node rest =>
    have hpositions : List.finRange (node :: rest).length =
        0 :: (List.finRange rest.length).map Fin.succ := List.finRange_succ
    have hrest : ((List.finRange rest.length).map Fin.succ).filter
        (fun i : Fin (node :: rest).length ↦ (i : ℕ) = 0 ∧ (node :: rest)[i].kind = .listItem) =
          [] := by
      refine List.filter_eq_nil_iff.2 fun i hi ↦ ?_
      obtain ⟨j, -, rfl⟩ := List.mem_map.1 hi
      simp
    rw [hpositions, List.filter_cons, hrest]
    by_cases hitem : node.kind = .listItem <;> simp [hitem, Option.filter_some]

/-- **The childless keys** of an outline of list items and keys: those that a key follows. -/
theorem filter_keyMissingChild_validate
    (hkey : ∀ node ∈ outline, node.kind.isKey = true ↔ node.kind ≠ .listItem)
    (numbering : Numbering) :
    (outline.validate numbering).filter (fun d ↦ d.code = Rule.keyMissingChild.code) =
      outline.keyPairs.map fun i : Fin outline.length ↦
        Diagnostic.ofRule (numbering.lineOf i outline[i]) .keyMissingChild := by
  have hpairs : (List.finRange outline.length).filter
      (fun i ↦ .keyMissingChild ∈ outline.rulesAt i) = outline.keyPairs := by
    rw [keyPairs]
    refine List.filter_congr fun i _ ↦ Bool.eq_iff_iff.2 ?_
    rw [decide_eq_true_eq, keyMissingChild_mem_rulesAt hkey, keyPairs, List.mem_filter,
      and_iff_right (List.mem_finRange i)]
  rw [filter_code_validate, hpairs]

/-- A key that a key follows is not the last node. -/
theorem succ_lt_of_mem_keyPairs {i : Fin outline.length} (h : i ∈ outline.keyPairs) :
    (i : ℕ) + 1 < outline.length := by
  obtain ⟨-, next, hnext, -⟩ := mem_keyPairs.1 h
  exact (List.getElem?_eq_some_iff.1 hnext).1

/-- Where keys and other nodes alternate, no key follows a key. -/
theorem keyPairs_eq_nil (h : outline.IsChain fun a b ↦ a.kind.isKey ≠ b.kind.isKey) :
    outline.keyPairs = [] := by
  refine List.eq_nil_iff_forall_not_mem.2 fun i hi ↦ ?_
  have hlt := succ_lt_of_mem_keyPairs hi
  obtain ⟨hkey, next, hnext, hkey'⟩ := mem_keyPairs.1 hi
  have hne := List.isChain_iff_getElem.1 h i hlt
  rw [List.getElem?_eq_getElem hlt] at hnext
  rw [Option.some.inj hnext, hkey'] at hne
  exact hne hkey

end Outline

/-! ### The outline of a document -/

/-- **Only known kinds reach an outline**: what is no list item is a key. -/
theorem Classifier.isKey_iff_of_mem_outline {c : Classifier} {lines : List Line} {outline : Outline}
    (h : c.outline lines = .ok outline) {node : Node} (hnode : node ∈ outline) :
    node.kind.isKey = true ↔ node.kind ≠ .listItem := by
  obtain ⟨-, rfl⟩ := outline_eq_ok_iff.1 h
  obtain ⟨line, -, hline⟩ := mem_nodes_iff.1 hnode
  exact isKey_iff_of_classify hline

/-- **In the outline of a document the rules on neighbours are rules on adjacency.** Every node has
one of the three known kinds. The one list item that may be an orphan is the first node. The keys
that lack a child are those that a key follows, in order; so the last node is none of them, and there
is none where keys and list items alternate. -/
theorem Linter.validate_neighbours {l : Linter} {lines : List Line} {outline : Outline}
    (h : l.outline lines = .ok outline) (numbering : Numbering) :
    (∀ node ∈ outline,
      node.kind = .listItem ∨ node.kind = .keyValuePair ∨ node.kind = .bareKey) ∧
    (outline.validate numbering).filter (fun d ↦ d.code = Rule.orphanListItem.code) =
      ((outline.head?.filter fun node ↦ node.kind = .listItem).map fun node ↦
        Diagnostic.ofRule (numbering.lineOf 0 node) .orphanListItem).toList ∧
    (outline.validate numbering).filter (fun d ↦ d.code = Rule.keyMissingChild.code) =
      (outline.keyPairs.map fun i : Fin outline.length ↦
        Diagnostic.ofRule (numbering.lineOf i outline[i]) .keyMissingChild) ∧
    (∀ i ∈ outline.keyPairs, (i : ℕ) + 1 < outline.length) ∧
    (outline.IsChain (fun a b ↦ a.kind.isKey ≠ b.kind.isKey) →
      (outline.validate numbering).filter (fun d ↦ d.code = Rule.keyMissingChild.code) = []) := by
  have hkey : ∀ node ∈ outline, node.kind.isKey = true ↔ node.kind ≠ .listItem :=
    fun _ ↦ Classifier.isKey_iff_of_mem_outline h
  have hkind : ∀ node ∈ outline,
      node.kind = .listItem ∨ node.kind = .keyValuePair ∨ node.kind = .bareKey := by
    intro node hnode
    have hiff := hkey node hnode
    cases hk : node.kind with
    | unknown code => simp [hk, Kind.isKey] at hiff
    | _ => simp
  have hknown : ∀ node ∈ outline, node.kind.isKnown = true := by
    intro node hnode
    obtain hk | hk | hk := hkind node hnode <;> rw [hk] <;> rfl
  have hpairs := Outline.filter_keyMissingChild_validate hkey numbering
  refine ⟨hkind, Outline.filter_orphanListItem_validate hknown numbering, hpairs,
    fun i ↦ Outline.succ_lt_of_mem_keyPairs, fun hchain ↦ ?_⟩
  rw [hpairs, Outline.keyPairs_eq_nil hchain]
  rfl

/-- A list item first and a comment between two keys: the first node is an orphan, and the second
lacks a child. -/
theorem Linter.validate_neighbours_around_comment :
    ({} : Linter).outline (Line.ofTexts [Text.ofString "- a", Text.ofString "k: v",
        Text.ofString "# c", Text.ofString "m:"]) =
      .ok [⟨1, .listItem, Text.ofString "-", Text.ofString "a", 1⟩,
        ⟨1, .keyValuePair, Text.ofString "k", Text.ofString "v", 2⟩,
        ⟨1, .bareKey, Text.ofString "m", [], 4⟩] ∧
    (Outline.validate .sourceLine [⟨1, .listItem, Text.ofString "-", Text.ofString "a", 1⟩,
        ⟨1, .keyValuePair, Text.ofString "k", Text.ofString "v", 2⟩,
        ⟨1, .bareKey, Text.ofString "m", [], 4⟩]).filter
      (fun d ↦ d.code = Rule.orphanListItem.code) = [.ofRule 1 .orphanListItem] ∧
    (Outline.validate .position [⟨1, .listItem, Text.ofString "-", Text.ofString "a", 1⟩,
        ⟨1, .keyValuePair, Text.ofString "k", Text.ofString "v", 2⟩,
        ⟨1, .bareKey, Text.ofString "m", [], 4⟩]).filter
      (fun d ↦ d.code = Rule.keyMissingChild.code) = [.ofRule 3 .keyMissingChild] := by
  have h : ({} : Linter).outline (Line.ofTexts [Text.ofString "- a", Text.ofString "k: v",
        Text.ofString "# c", Text.ofString "m:"]) =
      .ok [⟨1, .listItem, Text.ofString "-", Text.ofString "a", 1⟩,
        ⟨1, .keyValuePair, Text.ofString "k", Text.ofString "v", 2⟩,
        ⟨1, .bareKey, Text.ofString "m", [], 4⟩] := by decide
  exact ⟨h, (validate_neighbours h .sourceLine).2.1.trans (by decide),
    (validate_neighbours h .position).2.2.1.trans (by decide)⟩

end StructuralLint
