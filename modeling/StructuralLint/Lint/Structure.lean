import StructuralLint.Document.Node
import StructuralLint.Lint.Diagnostic

/-!
# Structural checks

The outline is checked node by node, each against its two neighbours:

* the indent is even;
* a list item has a node of known kind right before it;
* a key that is not the last node has a list item right after it.

Findings carry the node's own line, or, with positional numbering, its position plus two.
-/

namespace StructuralLint

/-- Which line number a structural finding carries. -/
inductive Numbering where
  /-- The line the node comes from. -/
  | sourceLine
  /-- The position of the node in the outline, plus two. -/
  | position
  deriving DecidableEq, Repr, Inhabited

/-- The line number of the node at a position. -/
def Numbering.lineOf (numbering : Numbering) (index : Nat) (node : Node) : Int64 :=
  match numbering with
  | .sourceLine => node.line
  | .position => Int64.ofNat index + 2

namespace Node

/-- Whether the indent is not a multiple of two. -/
def isOdd (node : Node) : Bool :=
  node.indent % 2 ≠ 0

/-- Whether the node is a list item that the node before it cannot own. -/
def isOrphan (before : Option Node) (node : Node) : Bool :=
  node.kind = .listItem && !(before.any (·.kind.isKnown))

/-- Whether the node is a key and the node after it is not a list item. -/
def isChildless (node : Node) (after : Option Node) : Bool :=
  node.kind.isKey && after.any (·.kind ≠ .listItem)

/-- The rules a node breaks between its neighbours, in the order they are reported. -/
def violations (before : Option Node) (node : Node) (after : Option Node) : List Rule :=
  (if node.isOdd then [.indentationNotEven] else []) ++
  (if isOrphan before node then [.orphanListItem] else []) ++
  (if isChildless node after then [.keyMissingChild] else [])

end Node

namespace Outline

/-- Checks the nodes from a position on, given the node before them. -/
def validateFrom (numbering : Numbering) (position : Nat) (before : Option Node) :
    Outline → List Diagnostic
  | [] => []
  | node :: rest =>
    (Node.violations before node rest.head?).map
        (Diagnostic.ofRule (numbering.lineOf position node)) ++
      validateFrom numbering (position + 1) (some node) rest

/-- The structural findings of an outline. -/
def validate (numbering : Numbering) (outline : Outline) : List Diagnostic :=
  validateFrom numbering 0 none outline

end Outline

end StructuralLint
