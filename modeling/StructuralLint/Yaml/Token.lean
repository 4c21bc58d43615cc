import StructuralLint.Text.Basic

/-!
# YAML tokens

The tokens of a YAML stream, with where they start and end, and the problems that a stream can
have. A problem is worded with the line of its context, or else with the line it was found at;
the first line of a stream goes unmentioned.
-/

namespace StructuralLint.Yaml

/-- A position in a stream, counted from zero. -/
structure Mark where
  index : Nat := 0
  line : Nat := 0
  column : Nat := 0
  deriving DecidableEq, Repr, Inhabited

/-- How a scalar was written. -/
inductive ScalarForm where
  /-- Without quotes. -/
  | plain
  /-- In quotes or as a block. -/
  | quoted
  deriving DecidableEq, Repr

/-- What a token is. -/
inductive TokenKind where
  | streamStart
  | streamEnd
  | versionDirective (major minor : Nat)
  | tagDirective (handle : List Char) (expansion : Text)
  | documentStart
  | documentEnd
  | blockSequenceStart
  | blockMappingStart
  | blockEnd
  | flowSequenceStart
  | flowSequenceEnd
  | flowMappingStart
  | flowMappingEnd
  | blockEntry
  | flowEntry
  | key
  | value
  | reference (name : List Char)
  | anchor (name : List Char)
  | tag (handle : List Char) (suffix : Text)
  | scalar (value : List Char) (form : ScalarForm)
  deriving DecidableEq, Repr, Inhabited

/-- A token and where it stands. -/
structure Token where
  kind : TokenKind
  start : Mark
  stop : Mark
  deriving DecidableEq, Repr, Inhabited

/-- Who found a problem. -/
inductive Finder where
  /-- Reading tokens. -/
  | tokens
  /-- Putting tokens together. -/
  | grammar
  deriving DecidableEq, Repr

/-- A problem with a stream. -/
structure Problem where
  /-- Who found it. -/
  finder : Finder
  /-- The line of what was being read, counted from zero. -/
  contextLine : Nat
  /-- The line it was found at, counted from zero. -/
  line : Nat
  /-- What is wrong. -/
  text : String
  deriving DecidableEq, Repr

/-- The wording of a problem. -/
def Problem.message (p : Problem) : Text :=
  let line := if p.contextLine ≠ 0 then p.contextLine else p.line
  let shown := match p.finder with
    | .tokens => line + 1
    | .grammar => line
  if line = 0 then Text.ofString p.text
  else Text.ofString "line " ++ Text.ofInt shown ++ Text.ofString ": " ++ Text.ofString p.text

end StructuralLint.Yaml
