import StructuralLint.Document.Line
import StructuralLint.Document.Node
import StructuralLint.Text.Space

/-!
# Classifying lines

One line yields a node, or nothing, or a tab error. The decision, in order:

* spaces and then a tab at the start of the line: a tab error, whatever follows;
* a blank line or a comment: nothing;
* trimmed, the line starts with `- `: a list item;
* the untrimmed line has a key before its first colon: a key, with or without a value;
* anything else: nothing.

The kind is decided on the line as it stands, with the white space of the key grammar; the key
and the value are cut from the trimmed line and trimmed again, with Unicode's white space.
-/

namespace StructuralLint

/-- A tab in the leading indentation of a line. -/
structure TabError where
  /-- The 1-based line number. -/
  line : Int64
  deriving DecidableEq, Repr

/-- How lines are classified. -/
structure Classifier where
  /-- Whether a line without leading spaces counts as indented by one. -/
  zeroIndentFallback : Bool := true
  /-- Which lines are comments. -/
  isComment : Text → Bool := fun t => t.trim.head? = some (.char '#')

namespace Text

/-- Whether the text starts with spaces, possibly none, and then a tab. -/
def hasLeadingTab (t : Text) : Bool :=
  (t.dropWhile (Rune.isChar ' ')).head? = some (.char '\t')

/-- The number of spaces the text starts with. -/
def leadingSpaces (t : Text) : Nat :=
  (t.takeWhile (Rune.isChar ' ')).length

/-- Whether trimming leaves nothing. -/
def isBlank (t : Text) : Bool :=
  t.trim.isEmpty

/-- What stands after the first colon of a text that has a key before it: its first visible
rune is neither `#` nor the colon. -/
def afterKey? (t : Text) : Option Text :=
  match t.dropWhile Rune.isPatternSpace with
  | [] => none
  | r :: rest =>
    if r = .char '#' ∨ r = .char ':' then none
    else (cut ':' rest).2

/-- The kind of a key line, decided on the untrimmed text. -/
def keyKind? (t : Text) : Option Kind :=
  (afterKey? t).map fun rest =>
    if rest.all Rune.isPatternSpace then .bareKey else .keyValuePair

end Text

/-- The key recorded for list items. -/
def listMarker : Text := "-"

namespace Classifier

/-- The indent recorded for a text. -/
def indent (c : Classifier) (t : Text) : Int64 :=
  let n := t.leadingSpaces
  if n = 0 ∧ c.zeroIndentFallback then 1 else Int64.ofNat n

/-- What a line yields once it is known to be neither blank nor a comment. -/
def node? (c : Classifier) (line : Line) : Option Node :=
  let trimmed := line.text.trim
  match trimmed with
  | .char '-' :: .char ' ' :: rest =>
    some ⟨c.indent line.text, .listItem, listMarker, Text.trim rest, line.number⟩
  | _ =>
    (Text.keyKind? line.text).map fun kind =>
      let (key, value) := Text.cut ':' trimmed
      let value := if kind = .bareKey then [] else Text.trim (value.getD [])
      ⟨c.indent line.text, kind, Text.trim key, value, line.number⟩

/-- Classifies one line. -/
def classify (c : Classifier) (line : Line) : Except TabError (Option Node) :=
  if line.text.hasLeadingTab then .error ⟨line.number⟩
  else if line.text.isBlank || c.isComment line.text then .ok none
  else .ok (c.node? line)

/-- The outline of a document: the nodes of its lines in order, or the first tab error. -/
def outline (c : Classifier) : List Line → Except TabError Outline
  | [] => .ok []
  | line :: lines =>
    match c.classify line with
    | .error e => .error e
    | .ok none => c.outline lines
    | .ok (some node) => (c.outline lines).map (node :: ·)

end Classifier

end StructuralLint
