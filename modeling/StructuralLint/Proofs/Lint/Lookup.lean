import Mathlib.Algebra.Group.Nat.Defs
import Mathlib.Algebra.Ring.Int.Defs
import Mathlib.Data.List.Basic
import StructuralLint.Lint.Structure

/-!
# Looking up neighbours by position

An outline may be asked for the node before or after any 64-bit position, negative ones and positions
past the end included. What the answer should be is a matter of integers, so it is said without 64-bit
words: `nodeBefore` and `nodeAfter` take an integer and never fail.

`prev` and `next` check their position before they index, and the checks are made in words.

* `prev` compares the position as it is given, so it answers as `nodeBefore` does everywhere
  (`prev_eq_ok`).
* `next` compares the position plus one. This sum is right for every position but the greatest
  (`next_eq_ok`). There it wraps around to the least word, which is below every length; the check is
  passed, and the outline is indexed at that word (`next_maxValue`).

The structural check asks for neighbours too. `validate` has them in hand, since it walks along the
nodes; `validateByPosition` looks each of them up, and only the one that the kind of a node calls for.
The two agree, and no look-up is out of bounds (`validateByPosition_eq_ok`): the positions of an
outline are below its length, so the greatest word is none of them.

Lengths are below `2 ^ 63` throughout. A length is compared as a word, and longer lists have none.
-/

namespace StructuralLint

/-! ### One step in words -/

/-- Adding one to a word does not wrap around, unless it is the greatest. -/
theorem toInt_add_one {i : Int64} (h : i ≠ Int64.maxValue) : (i + 1).toInt = i.toInt + 1 := by
  have hne : i.toInt ≠ 2 ^ 63 - 1 := by
    rw [← Int64.toInt_maxValue]
    exact mt Int64.toInt_inj.1 h
  have hlow := i.le_toInt
  have hhigh := i.toInt_lt
  rw [Int64.toInt_add, Int64.toInt_one]
  exact Int.bmod_eq_of_le (by omega) (by omega)

/-- Taking one from a positive word does not wrap around. -/
theorem toInt_sub_one {i : Int64} (h : 0 < i.toInt) : (i - 1).toInt = i.toInt - 1 := by
  have hhigh := i.toInt_lt
  rw [Int64.toInt_sub, Int64.toInt_one]
  exact Int.bmod_eq_of_le (by omega) (by omega)

namespace Outline

variable {outline : Outline} {i : Int64}

/-! ### Neighbours of an integer position -/

/-- The node before an integer position. There is one from position `1` to the position just past the
end. -/
def nodeBefore (outline : Outline) (k : ℤ) : Option Node :=
  if _ : 1 ≤ k ∧ k ≤ outline.length then some outline[(k - 1).toNat] else none

/-- The node after an integer position. There is one from position `0` to the last position but one. -/
def nodeAfter (outline : Outline) (k : ℤ) : Option Node :=
  if _ : 0 ≤ k ∧ k + 1 < outline.length then some outline[(k + 1).toNat] else none

theorem nodeBefore_succ {k : ℕ} (h : k < outline.length) :
    outline.nodeBefore (k + 1) = some outline[k] := by
  have hrange : 1 ≤ (k : ℤ) + 1 ∧ (k : ℤ) + 1 ≤ outline.length := by omega
  have hindex : ((k : ℤ) + 1 - 1).toNat = k := by omega
  rw [nodeBefore, dif_pos hrange]
  simp only [hindex]

theorem nodeAfter_natCast {k : ℕ} (h : k + 1 < outline.length) :
    outline.nodeAfter k = some outline[k + 1] := by
  have hrange : 0 ≤ (k : ℤ) ∧ (k : ℤ) + 1 < outline.length := by omega
  have hindex : ((k : ℤ) + 1).toNat = k + 1 := by omega
  rw [nodeAfter, dif_pos hrange]
  simp only [hindex]

/-- Before the place where an outline is cut stands the last node of the first part. -/
theorem nodeBefore_append (A B : Outline) :
    Outline.nodeBefore (A ++ B) A.length = A.getLast? := by
  rcases List.eq_nil_or_concat' A with rfl | ⟨init, last, rfl⟩
  · rfl
  · have hlt : init.length < (init ++ [last] ++ B).length := by simp
    rw [List.length_append, List.length_singleton, Int.natCast_succ, nodeBefore_succ hlt]
    simp

/-- After the first node of the second part stands the next one of that part. -/
theorem nodeAfter_append (A : Outline) (node : Node) (B : Outline) :
    Outline.nodeAfter (A ++ node :: B) A.length = B.head? := by
  cases B with
  | nil =>
    rw [nodeAfter, dif_neg]
    · rfl
    · simp
  | cons next B =>
    have hlt : A.length + 1 < (A ++ node :: next :: B).length := by simp
    rw [nodeAfter_natCast hlt]
    simp

/-! ### Checked look-ups -/

theorem get_eq_ok {k : ℕ} (hk : k < outline.length) (hi : i.toInt = k) :
    outline.get i = .ok outline[k] := by
  have hneg : ¬i < 0 := by
    rw [Int64.lt_iff_toInt_lt, Int64.toInt_zero]
    omega
  rw [get, if_neg hneg, hi, Int.toNat_natCast, List.getElem?_eq_getElem hk]

theorem get_of_neg (h : i < 0) : outline.get i = .error ⟨i, outline.length⟩ := by
  rw [get, if_pos h]

/-- **The node before a position is looked up safely**, whatever the position. -/
theorem prev_eq_ok (hlen : outline.length < 2 ^ 63) (i : Int64) :
    outline.prev i = .ok (outline.nodeBefore i.toInt) := by
  have hguard : (i ≤ 0 ∨ i > Int64.ofNat outline.length) ↔
      ¬(1 ≤ i.toInt ∧ i.toInt ≤ outline.length) := by
    rw [gt_iff_lt, Int64.le_iff_toInt_le, Int64.lt_iff_toInt_lt, Int64.toInt_zero,
      Int64.toInt_ofNat_of_lt hlen]
    omega
  by_cases hrange : 1 ≤ i.toInt ∧ i.toInt ≤ outline.length
  · have hindex : (i - 1).toInt = (i.toInt - 1).toNat := by
      rw [toInt_sub_one (by omega)]
      omega
    rw [prev, if_neg (by rwa [hguard, not_not]), get_eq_ok (by omega) hindex, nodeBefore,
      dif_pos hrange]
    rfl
  · rw [prev, if_pos (hguard.2 hrange), nodeBefore, dif_neg hrange]

/-- **The node after a position is looked up safely**, unless the position is the greatest word. -/
theorem next_eq_ok (hlen : outline.length < 2 ^ 63) (hi : i ≠ Int64.maxValue) :
    outline.next i = .ok (outline.nodeAfter i.toInt) := by
  have hguard : (i < 0 ∨ i + 1 ≥ Int64.ofNat outline.length) ↔
      ¬(0 ≤ i.toInt ∧ i.toInt + 1 < outline.length) := by
    rw [ge_iff_le, Int64.lt_iff_toInt_lt, Int64.le_iff_toInt_le, Int64.toInt_zero,
      Int64.toInt_ofNat_of_lt hlen, toInt_add_one hi]
    omega
  by_cases hrange : 0 ≤ i.toInt ∧ i.toInt + 1 < outline.length
  · have hindex : (i + 1).toInt = (i.toInt + 1).toNat := by
      rw [toInt_add_one hi]
      omega
    rw [next, if_neg (by rwa [hguard, not_not]), get_eq_ok (by omega) hindex, nodeAfter,
      dif_pos hrange]
    rfl
  · rw [next, if_pos (hguard.2 hrange), nodeAfter, dif_neg hrange]

/-- **At the greatest word the check is passed by the wrapped sum**, and the least word is no position of
any outline. -/
theorem next_maxValue (hlen : outline.length < 2 ^ 63) :
    outline.next Int64.maxValue = .error ⟨Int64.minValue, outline.length⟩ := by
  have hwrap : Int64.maxValue + 1 = Int64.minValue := by decide
  have hguard : ¬(Int64.maxValue < 0 ∨ Int64.minValue ≥ Int64.ofNat outline.length) := by
    rw [ge_iff_le, Int64.lt_iff_toInt_lt, Int64.le_iff_toInt_le, Int64.toInt_ofNat_of_lt hlen,
      Int64.toInt_maxValue, Int64.toInt_minValue, Int64.toInt_zero]
    omega
  rw [next, hwrap, if_neg hguard, get_of_neg (by decide)]
  rfl

/-! ### The structural check by look-ups -/

/-- The rules that a node at a position breaks. Its indent is its own, and of its neighbours only the
one that its kind asks for is looked up. -/
def violationsAt (outline : Outline) (i : Int64) (node : Node) : Except OutOfBounds (List Rule) :=
  let odd : List Rule := if node.isOdd then [.indentationNotEven] else []
  match node.kind with
  | .listItem => (outline.prev i).map fun before ↦
    odd ++ if before.any (·.kind.isKnown) then [] else [.orphanListItem]
  | .keyValuePair | .bareKey => (outline.next i).map fun after ↦
    odd ++ if after.any (·.kind ≠ .listItem) then [.keyMissingChild] else []
  | .unknown _ => .ok odd

/-- Checks nodes from a position on, with their neighbours looked up in the whole outline. -/
def validateByPositionFrom (numbering : Numbering) (outline : Outline) (position : ℕ) :
    Outline → Except OutOfBounds (List Diagnostic)
  | [] => .ok []
  | node :: rest => do
    let rules ← outline.violationsAt (Int64.ofNat position) node
    let later ← validateByPositionFrom numbering outline (position + 1) rest
    return rules.map (Diagnostic.ofRule (numbering.lineOf position node)) ++ later

/-- The structural findings of an outline, with neighbours looked up by position. -/
def validateByPosition (numbering : Numbering) (outline : Outline) :
    Except OutOfBounds (List Diagnostic) :=
  validateByPositionFrom numbering outline 0 outline

/-- The neighbour that is not looked up breaks no rule. -/
theorem violationsAt_eq_ok {before after : Option Node} (hprev : outline.prev i = .ok before)
    (hnext : outline.next i = .ok after) (node : Node) :
    outline.violationsAt i node = .ok (Node.violations before node after) := by
  rw [violationsAt, hprev, hnext, Node.violations, Node.isOrphan, Node.isChildless]
  cases node.kind with
  | listItem => cases hknown : before.any (·.kind.isKnown) <;> simp [Kind.isKey, Except.map, hknown]
  | keyValuePair | bareKey => simp [Kind.isKey, Except.map]
  | unknown code => simp [Kind.isKey]

/-- **One node of the check**: its position is the number of nodes before it, and look-ups find what
stands beside it. -/
theorem violationsAt_append {A B : Outline} {node : Node}
    (hlen : (A ++ node :: B).length < 2 ^ 63) :
    Outline.violationsAt (A ++ node :: B) (Int64.ofNat A.length) node =
      .ok (Node.violations A.getLast? node B.head?) := by
  have hlt : A.length + 1 < 2 ^ 63 := by
    rw [List.length_append, List.length_cons] at hlen
    omega
  have hposition : (Int64.ofNat A.length).toInt = A.length := Int64.toInt_ofNat_of_lt (by omega)
  have hne : Int64.ofNat A.length ≠ Int64.maxValue := by
    rw [Ne, ← Int64.toInt_inj, hposition, Int64.toInt_maxValue]
    omega
  refine violationsAt_eq_ok ?_ ?_ node
  · rw [prev_eq_ok hlen, hposition, nodeBefore_append]
  · rw [next_eq_ok hlen hne, hposition, nodeAfter_append]

/-- **All nodes of the check.** -/
theorem validateByPositionFrom_append (numbering : Numbering) (A B : Outline)
    (hlen : (A ++ B).length < 2 ^ 63) :
    validateByPositionFrom numbering (A ++ B) A.length B =
      .ok (validateFrom numbering A.length A.getLast? B) := by
  -- a node goes from the rest to the nodes before; the outline that is looked up in stays the same
  induction B generalizing A with
  | nil => rfl
  | cons node rest ih =>
    have hcut : A ++ node :: rest = (A ++ [node]) ++ rest := by simp
    have htail := ih (A ++ [node]) (hcut ▸ hlen)
    rw [← hcut, List.length_append, List.length_singleton, List.getLast?_concat] at htail
    rw [validateByPositionFrom, violationsAt_append hlen, htail]
    rfl

/-- **The check never looks up a node that there is none of**, and it finds what `validate` finds. -/
theorem validateByPosition_eq_ok (numbering : Numbering) (hlen : outline.length < 2 ^ 63) :
    outline.validateByPosition numbering = .ok (outline.validate numbering) :=
  validateByPositionFrom_append numbering [] outline hlen

/-! ### Look-ups at every position -/

/-- **Neighbours at every position.** `prev` answers as the integers say for every word, and `next` for
every word but the greatest; after that one the outline is indexed at the least word, whatever its
length. Two nodes side by side find each other, and the structural check by position is never out of
bounds. -/
theorem neighbours_at_every_position (hlen : outline.length < 2 ^ 63) :
    (∀ i : Int64, outline.prev i = .ok (outline.nodeBefore i.toInt)) ∧
    (∀ i : Int64, i ≠ Int64.maxValue → outline.next i = .ok (outline.nodeAfter i.toInt)) ∧
    outline.next Int64.maxValue = .error ⟨Int64.minValue, outline.length⟩ ∧
    (∀ (i : Int64) (k : ℕ) (_ : k + 1 < outline.length), i.toInt = k →
      outline.prev (i + 1) = .ok (some outline[k]) ∧ outline.next i = .ok (some outline[k + 1])) ∧
    ∀ numbering, outline.validateByPosition numbering = .ok (outline.validate numbering) := by
  refine ⟨prev_eq_ok hlen, fun i ↦ next_eq_ok hlen, next_maxValue hlen, fun i k hk hi ↦ ?_,
    fun numbering ↦ validateByPosition_eq_ok numbering hlen⟩
  have hne : i ≠ Int64.maxValue := by
    rintro rfl
    rw [Int64.toInt_maxValue] at hi
    omega
  constructor
  · rw [prev_eq_ok hlen, toInt_add_one hne, hi, nodeBefore_succ (by omega)]
  · rw [next_eq_ok hlen hne, hi, nodeAfter_natCast hk]

/-- A key and its list item. -/
def keyAndItem : Outline :=
  [⟨0, .bareKey, Text.ofString "a", [], 1⟩, ⟨2, .listItem, Text.ofString "-", Text.ofString "b", 2⟩]

/-- Positions before, at, between and past the two nodes, and those at both ends of the words. -/
theorem neighbours_at_every_position_key_and_item :
    keyAndItem.length < 2 ^ 63 ∧
    keyAndItem.prev Int64.minValue = .ok none ∧ keyAndItem.prev 0 = .ok none ∧
    keyAndItem.prev 2 = .ok (some keyAndItem[1]) ∧ keyAndItem.prev 3 = .ok none ∧
    keyAndItem.next (-1) = .ok none ∧ keyAndItem.next 1 = .ok none ∧
    keyAndItem.next (Int64.maxValue - 1) = .ok none ∧
    keyAndItem.next Int64.maxValue = .error ⟨Int64.minValue, 2⟩ ∧
    (keyAndItem.prev (0 + 1) = .ok (some keyAndItem[0]) ∧
      keyAndItem.next 0 = .ok (some keyAndItem[1])) ∧
    keyAndItem.validateByPosition .sourceLine = .ok [] := by
  have hlen : keyAndItem.length < 2 ^ 63 := by decide
  obtain ⟨hprev, hnext, hgreatest, hmutual, hcheck⟩ := neighbours_at_every_position hlen
  exact ⟨hlen, (hprev _).trans (by decide), (hprev _).trans (by decide), (hprev _).trans (by decide),
    (hprev _).trans (by decide), (hnext _ (by decide)).trans (by decide),
    (hnext _ (by decide)).trans (by decide), (hnext _ (by decide)).trans (by decide), hgreatest,
    hmutual 0 0 (by decide) (by decide), (hcheck _).trans (by decide)⟩

/-- **After the greatest word there is no node**, of an outline with nodes or without, and yet the outline
is indexed out of bounds. -/
theorem next_greatest_out_of_bounds :
    (nodeAfter [] Int64.maxValue.toInt = none ∧
      next [] Int64.maxValue = .error ⟨Int64.minValue, 0⟩) ∧
    keyAndItem.nodeAfter Int64.maxValue.toInt = none ∧
      keyAndItem.next Int64.maxValue = .error ⟨Int64.minValue, 2⟩ := by
  decide

end Outline

end StructuralLint
