import StructuralLint.Text.Utf8

/-!
# Paths

Paths as text, and their lexical arithmetic: cleaning, joining, the path from one directory to
another, and the extension. Nothing here looks at a file system, so `..` always cancels the
component before it.

A clean path is a `Path`: whether it starts at the root, and its components, in which `..` can
only stand at the front of an unrooted path.
-/

namespace StructuralLint

/-- A path in lexical normal form. -/
structure Path where
  /-- Whether the path starts at the root. -/
  isRooted : Bool
  /-- The components, without empty ones and without `.`. -/
  parts : List Text
  deriving DecidableEq, Repr, Inhabited

namespace Path

/-- The component that stays where it is. -/
def here : Text := "."

/-- The component that goes up. -/
def up : Text := ".."

/-- Whether a text is a path from the root. -/
def isAbsolute (t : Text) : Bool :=
  t.head? = some (.char '/')

/-- Adds a component to the components so far, last first. -/
def push (isRooted : Bool) (reversed : List Text) (part : Text) : List Text :=
  if part = [] ∨ part = here then reversed
  else if part = up then
    match reversed with
    | [] => if isRooted then [] else [up]
    | last :: rest => if last = up then up :: reversed else rest
  else part :: reversed

/-- The normal form of a path. -/
def ofText (t : Text) : Path :=
  let rooted := isAbsolute t
  ⟨rooted, ((Text.splitOn '/' t).foldl (push rooted) []).reverse⟩

/-- The text of a path in normal form; the empty one is `/` or `.`. -/
def text (p : Path) : Text :=
  let body := Text.joinWith "/" p.parts
  if p.isRooted then .char '/' :: body
  else if p.parts.isEmpty then here
  else body

/-- The shortest text of the same path. -/
def clean (t : Text) : Text :=
  (ofText t).text

/-- A name below a directory, as a clean path. What is empty does not count. -/
def join (dir name : Text) : Text :=
  if dir.isEmpty then if name.isEmpty then [] else clean name
  else clean (dir ++ .char '/' :: name)

/-- What is left of two lists once their common beginning is dropped. -/
def dropCommon : List Text → List Text → List Text × List Text
  | a :: as, b :: bs => if a = b then dropCommon as bs else (a :: as, b :: bs)
  | as, bs => (as, bs)

/-- The path that leads from `base` to `target`; `none` when none can be told from the text. -/
def relative? (base target : Text) : Option Text :=
  let b := ofText base
  let t := ofText target
  if b.isRooted ≠ t.isRooted then none
  else
    let (above, below) := dropCommon b.parts t.parts
    if above.head? = some up then none
    else some (text ⟨false, above.map (fun _ => up) ++ below⟩)

/-- The extension: the last component from its last dot on. -/
def extension (t : Text) : Text :=
  let last : Text := ((Text.splitOn '/' t).getLast?).getD []
  let tail := last.reverse.takeWhile (fun r => !r.isChar '.')
  if tail.length = last.length then [] else .char '.' :: tail.reverse

end Path

end StructuralLint
