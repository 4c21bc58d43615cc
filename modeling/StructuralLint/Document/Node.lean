import StructuralLint.Text.Basic

/-!
# Nodes

What a line contributes to the outline of a document: a list item, a key with a value, or a
bare key. Kinds are open: a node made by hand may carry a code that names no known kind, and
such a node is neither a list item nor a key.
-/

namespace StructuralLint

/-- What a classified line represents. -/
inductive Kind where
  /-- `- value` -/
  | listItem
  /-- `key: value` -/
  | keyValuePair
  /-- `key:` -/
  | bareKey
  /-- No known kind. -/
  | unknown (code : Int64)
  deriving DecidableEq, Repr, Inhabited

namespace Kind

/-- The kind with a given code. -/
def ofCode (code : Int64) : Kind :=
  if code = 1 then listItem
  else if code = 2 then keyValuePair
  else if code = 3 then bareKey
  else unknown code

/-- Whether the node introduces a key, with or without a value. -/
def isKey : Kind → Bool
  | keyValuePair | bareKey => true
  | listItem | unknown _ => false

/-- Whether the kind is one of the three known ones. -/
def isKnown : Kind → Bool
  | unknown _ => false
  | _ => true

/-- The name of a kind. -/
def name : Kind → Text
  | listItem => "ListItem"
  | keyValuePair => "KeyValuePair"
  | bareKey => "BareKey"
  | unknown code => Text.ofString "Kind(" ++ Text.ofInt code.toInt ++ Text.ofString ")"

end Kind

/-- One node of the outline. -/
structure Node where
  /-- The number of leading spaces. -/
  indent : Int64
  /-- What the line is. -/
  kind : Kind
  /-- The key, or the list marker. -/
  key : Text
  /-- The value, empty for a bare key. -/
  value : Text
  /-- The 1-based line number. -/
  line : Int64
  deriving DecidableEq, Repr, Inhabited

/-- The outline of a document: its nodes in order. Relations between nodes are adjacency. -/
abbrev Outline := List Node

/-- An access at a position that the outline does not have. -/
structure OutOfBounds where
  /-- The position asked for. -/
  position : Int64
  /-- The number of nodes. -/
  length : Nat
  deriving DecidableEq, Repr

namespace Outline

/-- The node at a 64-bit position. -/
def get (outline : Outline) (i : Int64) : Except OutOfBounds Node :=
  if i < 0 then .error ⟨i, outline.length⟩
  else
    match outline[i.toInt.toNat]? with
    | some node => .ok node
    | none => .error ⟨i, outline.length⟩

/-- The node before position `i`, if there is one. -/
def prev (outline : Outline) (i : Int64) : Except OutOfBounds (Option Node) :=
  if i ≤ 0 ∨ i > Int64.ofNat outline.length then .ok none
  else (Outline.get outline (i - 1)).map some

/-- The node after position `i`, if there is one. The bound is checked on the wrapped sum, so
the greatest position slips through the check and is out of bounds. -/
def next (outline : Outline) (i : Int64) : Except OutOfBounds (Option Node) :=
  if i < 0 ∨ i + 1 ≥ Int64.ofNat outline.length then .ok none
  else (Outline.get outline (i + 1)).map some

end Outline

end StructuralLint
