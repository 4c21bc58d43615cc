import StructuralLint.Proofs.Lint.Finding

/-!
# Outlines put together

The structural check looks at a node and at its two neighbours. So where an outline is cut in two, only
the two nodes at the cut can tell: the last node of the first part gains a node after it, and the first
node of the second part gains a node before it. `Outline.validate_append` says what comes of this, for
outlines of any nodes, of unknown kinds too: the first may turn out to lack a child, and the second may
no longer be an orphan.

The other nodes are seen as before (`Context.nodeDiagnostics_followedBy_cons`,
`Context.nodeDiagnostics_precededBy`), except that by position those of the second part are numbered
from the length of the first on.
-/

namespace StructuralLint

/-- How findings are numbered when more nodes stand in front: positions move, source lines do not. -/
def Numbering.shift (numbering : Numbering) (n : ℕ) (d : Diagnostic) : Diagnostic :=
  match numbering with
  | .sourceLine => d
  | .position => { d with line := d.line + Int64.ofNat n }

theorem Numbering.ofRule_lineOf_add (numbering : Numbering) (n i : ℕ) (node : Node) (rule : Rule) :
    Diagnostic.ofRule (numbering.lineOf (n + i) node) rule =
      numbering.shift n (.ofRule (numbering.lineOf i node) rule) := by
  cases numbering with
  | sourceLine => rfl
  | position =>
    have hline : Int64.ofNat (n + i) + 2 = Int64.ofNat i + 2 + Int64.ofNat n := by
      rw [Int64.ofNat_add, Int64.add_assoc, Int64.add_comm]
    rw [lineOf, hline]
    rfl

theorem Diagnostic.ofRule_injective (line : Int64) : Function.Injective (ofRule line) :=
  fun _ _ h ↦ Rule.code_injective (congrArg Diagnostic.code h)

/-! ### The two nodes at the cut -/

namespace Node

/-- A node after the last one can only add that a child is missing. -/
theorem violations_some_after (before : Option Node) (x y : Node) :
    violations before x (some y) = violations before x none ++
      if x.kind.isKey ∧ y.kind ≠ .listItem then [.keyMissingChild] else [] := by
  simp [violations, isChildless]

/-- A node before the first one can only own it. -/
theorem violations_some_before (x y : Node) (after : Option Node) :
    violations (some x) y after =
      if y.kind = .listItem ∧ x.kind.isKnown then (violations none y after).erase .orphanListItem
      else violations none y after := by
  have hchild : isChildless y after = true → y.kind ≠ .listItem := by
    intro h hitem
    simp [isChildless, hitem, Kind.isKey] at h
  by_cases hitem : y.kind = .listItem
  · have hchildless : isChildless y after = false := by
      rw [← Bool.not_eq_true]
      exact fun h ↦ hchild h hitem
    cases hknown : x.kind.isKnown <;> cases hodd : y.isOdd <;>
      simp [violations, isOrphan, hitem, hknown, hodd, hchildless]
  · simp [violations, isOrphan, hitem]

end Node

namespace Context

/-- What the structural check finds at a node. -/
def nodeDiagnostics (numbering : Numbering) (x : Context Node) : List Diagnostic :=
  x.nodeRules.map (Diagnostic.ofRule (numbering.lineOf x.before.length x.here))

/-- The check looks ahead to the next node only. -/
theorem nodeDiagnostics_followedBy_cons (numbering : Numbering) (x : Context Node) (a : Node)
    (B : List Node) :
    (x.followedBy (a :: B)).nodeDiagnostics numbering =
      (x.followedBy [a]).nodeDiagnostics numbering := by
  simp [nodeDiagnostics, nodeRules, List.head?_append]

/-- The check looks back to the node before only. -/
theorem nodeDiagnostics_precededBy (numbering : Numbering) {x : Context Node} (h : x.before ≠ [])
    (A : List Node) :
    (x.precededBy A).nodeDiagnostics numbering =
      (x.nodeDiagnostics numbering).map (numbering.shift A.length) := by
  have hlast : (A ++ x.before).getLast? = x.before.getLast? := List.getLast?_append_of_ne_nil _ h
  simp only [nodeDiagnostics, nodeRules, before_precededBy, here_precededBy, after_precededBy, hlast,
    List.length_append, List.map_map]
  exact List.map_congr_left fun rule _ ↦ numbering.ofRule_lineOf_add _ _ _ rule

end Context

namespace Outline

variable (numbering : Numbering)

/-- The findings of an outline, those of its last node apart. -/
theorem validate_concat (A : Outline) (x : Node) :
    (A ++ [x]).validate numbering =
      ((contexts A).map (Context.followedBy [x])).flatMap (Context.nodeDiagnostics numbering) ++
        Context.nodeDiagnostics numbering ⟨A, x, []⟩ := by
  rw [validate_eq_flatMap, contexts_append_cons, List.flatMap_append]
  exact congrArg _ (List.append_nil _)

/-- The findings of an outline, those of its first node apart. -/
theorem validate_cons (y : Node) (B : Outline) :
    validate numbering (y :: B) = Context.nodeDiagnostics numbering ⟨[], y, B⟩ ++
      ((contexts B).map (Context.precededBy [y])).flatMap (Context.nodeDiagnostics numbering) := by
  rw [validate_eq_flatMap, contexts_cons, List.flatMap_cons]
  rfl

/-- The findings of an outline that is cut between two nodes. -/
theorem validate_append_cons (A : Outline) (x y : Node) (B : Outline) :
    (A ++ [x] ++ y :: B).validate numbering =
      ((contexts A).map (Context.followedBy [x])).flatMap (Context.nodeDiagnostics numbering) ++
        Context.nodeDiagnostics numbering ⟨A, x, y :: B⟩ ++
      (Context.nodeDiagnostics numbering ⟨A ++ [x], y, B⟩ ++
        (((contexts B).map (Context.precededBy [y])).flatMap
          (Context.nodeDiagnostics numbering)).map (numbering.shift (A ++ [x]).length)) := by
  -- before `x`, what follows `x` is out of sight
  have hinit : ((contexts A).map (Context.followedBy (x :: y :: B))).flatMap
        (Context.nodeDiagnostics numbering) =
      ((contexts A).map (Context.followedBy [x])).flatMap (Context.nodeDiagnostics numbering) := by
    rw [List.flatMap_map, List.flatMap_map]
    exact List.flatMap_congr fun z _ ↦ z.nodeDiagnostics_followedBy_cons numbering x (y :: B)
  -- behind `y`, what comes before `y` is out of sight, but it is counted
  have hrest : (((contexts B).map (Context.precededBy [y])).map
        (Context.precededBy (A ++ [x]))).flatMap (Context.nodeDiagnostics numbering) =
      (((contexts B).map (Context.precededBy [y])).flatMap
        (Context.nodeDiagnostics numbering)).map (numbering.shift (A ++ [x]).length) := by
    rw [List.flatMap_map, List.map_flatMap]
    refine List.flatMap_congr fun z hz ↦ ?_
    obtain ⟨z', -, rfl⟩ := List.mem_map.1 hz
    exact Context.nodeDiagnostics_precededBy numbering (by simp) _
  have hcontexts : contexts (A ++ [x] ++ y :: B) =
      (contexts A).map (Context.followedBy (x :: y :: B)) ++ ⟨A, x, y :: B⟩ :: ⟨A ++ [x], y, B⟩ ::
        ((contexts B).map (Context.precededBy [y])).map (Context.precededBy (A ++ [x])) := by
    rw [List.append_assoc, List.singleton_append, contexts_append_cons, contexts_cons, List.map_cons]
    simp [Context.precededBy]
  rw [← hinit, ← hrest, validate_eq_flatMap, hcontexts, List.flatMap_append, List.flatMap_cons,
    List.flatMap_cons, List.append_assoc]
  rfl

/-- What the last node of the first part gains. -/
theorem nodeDiagnostics_cons_after (A : Outline) (x y : Node) (B : Outline) :
    Context.nodeDiagnostics numbering ⟨A, x, y :: B⟩ =
      Context.nodeDiagnostics numbering ⟨A, x, []⟩ ++
        if x.kind.isKey ∧ y.kind ≠ .listItem then [.ofRule (numbering.lineOf A.length x) .keyMissingChild]
        else [] := by
  have hrules : Context.nodeRules ⟨A, x, y :: B⟩ = Context.nodeRules ⟨A, x, []⟩ ++
      if x.kind.isKey ∧ y.kind ≠ .listItem then [.keyMissingChild] else [] :=
    Node.violations_some_after A.getLast? x y
  rw [Context.nodeDiagnostics, Context.nodeDiagnostics, hrules, List.map_append]
  congr 1
  split <;> rfl

/-- What the first node of the second part loses. -/
theorem nodeDiagnostics_concat_before (A : Outline) (x y : Node) (B : Outline) :
    Context.nodeDiagnostics numbering ⟨A ++ [x], y, B⟩ =
      (if y.kind = .listItem ∧ x.kind.isKnown
        then (Context.nodeDiagnostics numbering ⟨[], y, B⟩).erase
          (.ofRule (numbering.lineOf 0 y) .orphanListItem)
        else Context.nodeDiagnostics numbering ⟨[], y, B⟩).map (numbering.shift (A ++ [x]).length) := by
  have hrules : Context.nodeRules ⟨A ++ [x], y, B⟩ =
      if y.kind = .listItem ∧ x.kind.isKnown
        then (Context.nodeRules ⟨[], y, B⟩).erase .orphanListItem
        else Context.nodeRules ⟨[], y, B⟩ := by
    have hlast : (A ++ [x]).getLast? = some x := List.getLast?_concat
    rw [Context.nodeRules, hlast]
    exact Node.violations_some_before x y B.head?
  have hline : ∀ rules : List Rule,
      rules.map (Diagnostic.ofRule (numbering.lineOf (A ++ [x]).length y)) =
        (rules.map (Diagnostic.ofRule (numbering.lineOf 0 y))).map
          (numbering.shift (A ++ [x]).length) := by
    intro rules
    rw [List.map_map]
    exact List.map_congr_left fun rule _ ↦ numbering.ofRule_lineOf_add _ 0 _ rule
  rw [Context.nodeDiagnostics, hrules, hline]
  congr 1
  split
  · exact List.map_erase (Diagnostic.ofRule_injective _) _
  · rfl

/-- A list item that comes first is an orphan, and is reported so right after its indent. -/
theorem nodeDiagnostics_listItem_first {y : Node} (hy : y.kind = .listItem) (B : Outline) :
    Context.nodeDiagnostics numbering ⟨[], y, B⟩ =
      (if y.isOdd then [.ofRule (numbering.lineOf 0 y) .indentationNotEven] else []) ++
        [.ofRule (numbering.lineOf 0 y) .orphanListItem] := by
  have hrules : Context.nodeRules ⟨[], y, B⟩ =
      (if y.isOdd then [.indentationNotEven] else []) ++ [.orphanListItem] := by
    simp [Context.nodeRules, Node.violations, Node.isOrphan, Node.isChildless, hy, Kind.isKey]
  rw [Context.nodeDiagnostics, hrules, List.map_append]
  congr 1
  split <;> rfl

/-- **The check is local**, in both numberings. -/
theorem validate_append_eq {A B : Outline} {x y : Node} (hx : A.getLast? = some x)
    (hy : B.head? = some y) :
    (A ++ B).validate numbering = A.validate numbering ++
      (if x.kind.isKey ∧ y.kind ≠ .listItem
        then [.ofRule (numbering.lineOf (A.length - 1) x) .keyMissingChild] else []) ++
      (if y.kind = .listItem ∧ x.kind.isKnown
        then (B.validate numbering).erase (.ofRule (numbering.lineOf 0 y) .orphanListItem)
        else B.validate numbering).map (numbering.shift A.length) := by
  obtain ⟨A, rfl⟩ := List.getLast?_eq_some_iff.1 hx
  obtain ⟨B, rfl⟩ := List.head?_eq_some_iff.1 hy
  have hlength : (A ++ [x]).length - 1 = A.length := by simp
  have herase : (if y.kind = .listItem ∧ x.kind.isKnown
        then (validate numbering (y :: B)).erase (.ofRule (numbering.lineOf 0 y) .orphanListItem)
        else validate numbering (y :: B)) =
      (if y.kind = .listItem ∧ x.kind.isKnown
        then (Context.nodeDiagnostics numbering ⟨[], y, B⟩).erase
          (.ofRule (numbering.lineOf 0 y) .orphanListItem)
        else Context.nodeDiagnostics numbering ⟨[], y, B⟩) ++
      ((contexts B).map (Context.precededBy [y])).flatMap (Context.nodeDiagnostics numbering) := by
    rw [validate_cons]
    split
    · next h =>
      -- the orphan is among the findings of `y`, so nothing behind them is left out
      refine List.erase_append_left _ ?_
      rw [nodeDiagnostics_listItem_first numbering h.1]
      simp
    · rfl
  rw [hlength, herase, validate_append_cons, validate_concat, nodeDiagnostics_cons_after,
    nodeDiagnostics_concat_before, List.map_append]
  simp only [List.append_assoc]

/-- **The check of two outlines put together** is that of the first one, a missing child of its last node
`x` if `x` is a key and the first node `y` of the second one is no list item, and that of the second one,
less the orphan `y` if `y` is a list item and `x` has a known kind. By position, the findings of the second
outline lie further down by the length of the first. The orphan to be left out is the first finding of its
rule: only the indent of `y` may be reported before it. -/
theorem validate_append {A B : Outline} {x y : Node} (hx : A.getLast? = some x)
    (hy : B.head? = some y) :
    (A ++ B).validate .sourceLine = A.validate .sourceLine ++
      (if x.kind.isKey ∧ y.kind ≠ .listItem then [.ofRule x.line .keyMissingChild] else []) ++
      (if y.kind = .listItem ∧ x.kind.isKnown
        then (B.validate .sourceLine).erase (.ofRule y.line .orphanListItem)
        else B.validate .sourceLine) ∧
    (A ++ B).validate .position = A.validate .position ++
      (if x.kind.isKey ∧ y.kind ≠ .listItem
        then [.ofRule (Int64.ofNat (A.length - 1) + 2) .keyMissingChild] else []) ++
      (if y.kind = .listItem ∧ x.kind.isKnown
        then (B.validate .position).erase (.ofRule 2 .orphanListItem)
        else B.validate .position).map (fun d ↦ { d with line := d.line + Int64.ofNat A.length }) ∧
    (y.kind = .listItem → ∀ numbering, ∃ rest, B.validate numbering =
      (if y.isOdd then [.ofRule (numbering.lineOf 0 y) .indentationNotEven] else []) ++
        .ofRule (numbering.lineOf 0 y) .orphanListItem :: rest) := by
  refine ⟨?_, validate_append_eq .position hx hy, fun hitem numbering ↦ ?_⟩
  · have h := validate_append_eq .sourceLine hx hy
    have hshift : Numbering.sourceLine.shift A.length = id := rfl
    rw [hshift, List.map_id] at h
    exact h
  · obtain ⟨B, rfl⟩ := List.head?_eq_some_iff.1 hy
    rw [validate_cons, nodeDiagnostics_listItem_first numbering hitem, List.append_assoc]
    exact ⟨_, rfl⟩

/-- A key before an unindented list item on the same line, and unknown kinds on both sides of the cut. -/
theorem validate_append_key_listItem :
    validate .sourceLine ([⟨0, .unknown 7, [], [], 3⟩, ⟨1, .bareKey, Text.ofString "k", [], 5⟩] ++
        [⟨1, .listItem, listMarker, Text.ofString "x", 5⟩,
          ⟨2, .keyValuePair, Text.ofString "a", Text.ofString "b", 6⟩, ⟨0, .unknown 0, [], [], 6⟩]) =
      [.ofRule 5 .indentationNotEven, .ofRule 5 .indentationNotEven, .ofRule 6 .keyMissingChild] ∧
    validate .position ([⟨0, .unknown 7, [], [], 3⟩, ⟨1, .bareKey, Text.ofString "k", [], 5⟩] ++
        [⟨1, .listItem, listMarker, Text.ofString "x", 5⟩,
          ⟨2, .keyValuePair, Text.ofString "a", Text.ofString "b", 6⟩, ⟨0, .unknown 0, [], [], 6⟩]) =
      [.ofRule 3 .indentationNotEven, .ofRule 4 .indentationNotEven, .ofRule 5 .keyMissingChild] := by
  obtain ⟨hsource, hposition, -⟩ := validate_append
    (A := [⟨0, .unknown 7, [], [], 3⟩, ⟨1, .bareKey, Text.ofString "k", [], 5⟩])
    (B := [⟨1, .listItem, listMarker, Text.ofString "x", 5⟩,
      ⟨2, .keyValuePair, Text.ofString "a", Text.ofString "b", 6⟩, ⟨0, .unknown 0, [], [], 6⟩]) rfl rfl
  exact ⟨hsource.trans rfl, hposition.trans rfl⟩

end Outline

end StructuralLint
