import StructuralLint.Yaml.Datum
import StructuralLint.Yaml.Tree

/-!
# What is wrong with the data of a document

Two kinds of things can be wrong with a document that is well formed. Some end the reading at
once; others, the *faults*, are collected and reported together.
-/

namespace StructuralLint.Yaml

/-- What a tree was expected to be. -/
inductive Target where
  /-- A mapping from texts. -/
  | mapping
  /-- A text. -/
  | text
  deriving DecidableEq, Repr

/-- Something in a document that cannot be taken as it stands. -/
inductive Fault where
  /-- A tree is not what is expected; `shown` is what is quoted of it. -/
  | mistyped (line : Nat) (tag : Text) (shown : Text) (target : Target)
  /-- A key was there before. -/
  | repeated (line : Nat) (key : List Char) (firstLine : Nat)
  deriving DecidableEq, Repr

/-- The wording of a fault. -/
def Fault.message : Fault → Text
  | mistyped line tag shown target =>
    Text.ofString "line " ++ Text.ofInt line ++ Text.ofString ": cannot unmarshal " ++
      tag ++ shown ++ Text.ofString " into " ++
      (match target with
        | .mapping => Text.ofString (Datum.mapType true)
        | .text => Text.ofString "string")
  | repeated line key firstLine =>
    Text.ofString "line " ++ Text.ofInt line ++ Text.ofString ": mapping key " ++
      Text.quoted (key.map Rune.char) ++ Text.ofString " already defined at line " ++
      Text.ofInt firstLine

/-- Why a stream gives no data. -/
inductive DecodeError where
  /-- It has no document. -/
  | unread (failure : ReadFailure)
  /-- A scalar is not what its tag says. -/
  | untagged (found : Text) (value : List Char) (wanted : Text)
  /-- Binary data is not written in base 64. -/
  | badBinary
  /-- An anchor is part of what it names. -/
  | circular (name : List Char)
  /-- Something other than mappings is to be merged. -/
  | badMerge
  /-- A collection is used as a key. -/
  | badKey (shown : Text)
  /-- A collection is used as a key where mappings are merged. -/
  | badMergedKey (type : String)
  /-- Copies make up too much of the document. -/
  | tooManyCopies
  /-- The document has faults. -/
  | faulty (faults : List Fault)
  deriving DecidableEq, Repr

/-- The wording of an error. -/
def DecodeError.message : DecodeError → Text
  | unread failure => Text.ofString "yaml: " ++ failure.message
  | untagged found value wanted =>
    Text.ofString "yaml: cannot decode " ++ found ++ Text.ofString " \x60" ++
      value.map Rune.char ++ Text.ofString "\x60 as a " ++ wanted
  | badBinary => "yaml: !!binary value contains invalid base64 data"
  | circular name =>
    Text.ofString "yaml: anchor '" ++ name.map Rune.char ++ Text.ofString "' value contains itself"
  | badMerge => "yaml: map merge requires map or sequence of maps as the value"
  | badKey shown => Text.ofString "yaml: invalid map key: " ++ shown
  | badMergedKey type =>
    Text.ofString "yaml: runtime error: hash of unhashable type " ++ Text.ofString type
  | tooManyCopies => "yaml: document contains excessive aliasing"
  | faulty faults =>
    Text.ofString "yaml: unmarshal errors:" ++
      faults.flatMap fun f => Text.ofString "\n  " ++ f.message

/-- The key that a datum is. A collection is none, and `isMerging` says whether it is looked up
among the keys that a merge may not set. -/
def Datum.key (isMerging : Bool) (d : Datum) : Except DecodeError Atom :=
  match d with
  | .atom a => .ok a
  | .list _ => .error (if isMerging then .badMergedKey listType else .badKey d.literal)
  | .map isTextual _ =>
    .error (if isMerging then .badMergedKey (mapType isTextual) else .badKey d.literal)

end StructuralLint.Yaml
