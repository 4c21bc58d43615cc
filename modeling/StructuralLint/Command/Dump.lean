import StructuralLint.Document.Node
import StructuralLint.Text.Quoted

/-!
# Dumping outlines

An outline written out for inspection: every node with all its fields, their types, and the
lengths of texts in bytes. The dump is a list of small pieces, each of which is offered to the
output on its own.
-/

namespace StructuralLint.Dump

/-- The indentation of a level. -/
def indent (level : Nat) : Text :=
  List.replicate (2 * level) (Rune.char ' ')

/-- The name of a type in brackets. -/
def typePieces (name : String) : List Text :=
  [Text.ofString "(", Text.ofString name, Text.ofString ")", Text.ofString " "]

/-- The length of something, unless it is zero. -/
def lengthPieces (n : Nat) : List Text :=
  if n = 0 then []
  else
    [Text.ofString "(", Text.ofString "len=", Text.ofInt n, Text.ofString ")", Text.ofString " "]

/-- An integer with its type. -/
def integerPieces (n : Int64) : List Text :=
  typePieces "int" ++ [Text.ofInt n.toInt]

/-- A text with its type and length. -/
def textPieces (t : Text) : List Text :=
  typePieces "string" ++ lengthPieces t.size ++ [t.quoted]

/-- The fields of a node, by name. -/
def fields (n : Node) : List (String × List Text) :=
  [("Indent", integerPieces n.indent), ("Kind", typePieces "yamlint.Kind" ++ [n.kind.name]),
   ("Key", textPieces n.key), ("Value", textPieces n.value), ("Line", integerPieces n.line)]

/-- Some parts, each followed by a line break and all but the last by a comma. -/
def separated : List (List Text) → List Text
  | [] => []
  | [part] => part ++ [Text.ofString "\n"]
  | part :: rest => part ++ Text.ofString ",\n" :: separated rest

/-- A node. -/
def nodePieces (n : Node) : List Text :=
  indent 1 :: typePieces "yamlint.Node" ++ Text.ofString "\x7b\n" ::
    separated ((fields n).map fun (name, value) =>
      [indent 2, Text.ofString name, Text.ofString ": "] ++ value) ++
    [indent 1, Text.ofString "\x7d"]

/-- An outline. -/
def outlinePieces (outline : Outline) : List Text :=
  typePieces "yamlint.Tree" ++ lengthPieces outline.length ++ Text.ofString "\x7b\n" ::
    separated (outline.map nodePieces) ++ [Text.ofString "\x7d", Text.ofString "\n"]

/-- An outline under the name of its document. -/
def pieces (name : Text) (outline : Outline) : List Text :=
  (Text.ofString "# " ++ name ++ Text.ofString "\n") :: outlinePieces outline

end StructuralLint.Dump
