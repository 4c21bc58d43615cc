import StructuralLint.Text.Lower
import StructuralLint.Text.Quoted
import StructuralLint.Text.Space

/-!
# Output formats
-/

namespace StructuralLint

/-- How reports are written. -/
inductive Format where
  | text
  | json
  | yaml
  deriving DecidableEq, Repr, Inhabited

/-- A name that names no format. -/
structure FormatError where
  /-- The name as given. -/
  name : Text
  deriving DecidableEq, Repr

namespace FormatError

/-- The short wording. -/
def message (e : FormatError) : Text :=
  Text.ofString "unknown format " ++ e.name.quoted

/-- The wording that lists the formats there are. -/
def messageWithChoices (e : FormatError) : Text :=
  e.message ++ Text.ofString " (want one of text, json, yaml)"

end FormatError

namespace Format

/-- The name of a format. -/
def name : Format → String
  | text => "text"
  | json => "json"
  | yaml => "yaml"

/-- All formats. -/
def all : List Format := [text, json, yaml]

/-- The format with exactly this name. -/
def ofName (t : Text) : Except FormatError Format :=
  match all.find? (fun f => t = Text.ofString f.name) with
  | some f => .ok f
  | none => .error ⟨t⟩

/-- Reads a format name in any case, with white space around it. -/
def parse (t : Text) : Except FormatError Format :=
  match ofName t.trim.lower with
  | .ok f => .ok f
  | .error _ => .error ⟨t⟩

end Format

end StructuralLint
