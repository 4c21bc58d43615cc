import StructuralLint.Yaml.Cursor

/-!
# Scalars in a YAML stream

Reading plain, quoted and block scalars. Line breaks inside a plain or quoted scalar are folded:
one break becomes a space, and further ones stay. `Gap` is what has been passed over since the
last visible character and enters the scalar only if another one follows.
-/

namespace StructuralLint.Yaml

/-- White space whose meaning is still open. -/
structure Gap where
  /-- Blanks on the current line. -/
  blanks : List Char := []
  /-- The first line break. -/
  firstBreak : List Char := []
  /-- The line breaks after it. -/
  moreBreaks : List Char := []
  /-- Whether a line has ended. -/
  lineEnded : Bool := false
  deriving DecidableEq, Repr, Inhabited

/-- What a gap becomes between two visible characters. -/
def Gap.folded (g : Gap) : List Char :=
  if g.lineEnded then
    if g.firstBreak = ['\n'] then (if g.moreBreaks.isEmpty then [' '] else g.moreBreaks)
    else g.firstBreak ++ g.moreBreaks
  else g.blanks

/-- Reads a gap. Where `indent` is given, a tab left of that column after a line break is
refused. -/
def readGap (indent : Option Nat) (start : Mark) (c : Cursor) (g : Gap) :
    (fuel : Nat) → Except Problem (Gap × Cursor)
  | 0 => .ok (g, c)
  | fuel + 1 => do
    let c ← c.ensure 1
    match c.peek? 0 with
    | none => return (g, c)
    | some x =>
      if isBlankScalar x then
        if g.lineEnded && x == '\t' && indent.any (c.mark.column < ·) then
          c.problem start "found a tab character that violates indentation"
        else if g.lineEnded then readGap indent start c.skip g fuel
        else readGap indent start c.skip { g with blanks := g.blanks ++ [x] } fuel
      else if isBreakScalar x then
        let c ← c.ensure 2
        let g' : Gap :=
          if g.lineEnded then { g with moreBreaks := g.moreBreaks ++ c.lineBreak }
          else { g with blanks := [], firstBreak := c.lineBreak, lineEnded := true }
        readGap indent start c.skipLine g' fuel
      else return (g, c)

/-! ### Plain scalars -/

/-- Whether a plain scalar ends at the cursor, a gap apart. -/
def endsPlain (inFlow : Bool) (c : Cursor) : Bool :=
  (c.isAt 0 ':' && c.isGapAt 1) ||
    (inFlow && (c.peek? 0).any fun x => ",?[]\x7b\x7d".toList.contains x)

/-- A plain scalar half read. -/
structure PlainText where
  /-- The text, last character first. -/
  reversed : List Char := []
  /-- What has been passed since its last character. -/
  gap : Gap := {}
  /-- Where its last character ends. -/
  stop : Mark
  deriving Repr

/-- Adds a visible character to a plain scalar, with the gap before it; it ends at `stop`. -/
def PlainText.push (t : PlainText) (x : Char) (stop : Mark) : PlainText where
  reversed := x :: (t.gap.folded.reverse ++ t.reversed)
  stop

/-- Reads the visible characters of a plain scalar up to a gap. -/
def readPlainRun (inFlow : Bool) (c : Cursor) (t : PlainText) :
    (fuel : Nat) → Except Problem (PlainText × Cursor)
  | 0 => .ok (t, c)
  | fuel + 1 => do
    if c.isGapAt 0 || endsPlain inFlow c then return (t, c)
    match c.peek? 0 with
    | none => return (t, c)
    | some x =>
      let next ← c.skip.ensure 2
      readPlainRun inFlow next (t.push x next.mark) fuel

/-- Reads a plain scalar from its first character. -/
def readPlain (inFlow : Bool) (indent : Nat) (start : Mark) (c : Cursor) (t : PlainText) :
    (fuel : Nat) → Except Problem (PlainText × Cursor)
  | 0 => .ok (t, c)
  | fuel + 1 => do
    let c ← c.ensure 4
    if c.isAnyDocumentMarker || c.isAt 0 '#' then return (t, c)
    let (t, c) ← readPlainRun inFlow c t c.steps
    if !(c.isBlankAt 0 || c.isBreakAt 0) then return (t, c)
    let (gap, c) ← readGap (some indent) start c t.gap c.steps
    let t := { t with gap }
    if !inFlow && c.mark.column < indent then return (t, c)
    readPlain inFlow indent start c t fuel

/-! ### Quoted scalars -/

/-- The value of a hexadecimal digit. -/
def hexValue? (c : Char) : Option Nat :=
  if c.isDigit then some (c.toNat - 0x30)
  else if 'a' ≤ c ∧ c ≤ 'f' then some (c.toNat - 0x61 + 10)
  else if 'A' ≤ c ∧ c ≤ 'F' then some (c.toNat - 0x41 + 10)
  else none

/-- The number that hexadecimal digits denote; `none` if there are too few. -/
def hexNumber? (width : Nat) (cs : List Char) : Option Nat :=
  let ds := (cs.take width).map hexValue?
  if ds.length = width ∧ ds.all Option.isSome then
    some (ds.foldl (fun n d => n * 16 + d.getD 0) 0)
  else none

/-- The characters that a single letter after a backslash stands for. -/
def shortEscapes : List (Char × Char) :=
  [('0', '\x00'), ('a', '\x07'), ('b', '\x08'), ('t', '\t'), ('\t', '\t'), ('n', '\n'),
   ('v', '\x0b'), ('f', '\x0c'), ('r', '\r'), ('e', '\x1b'), (' ', ' '), ('"', '"'),
   ('\x27', '\x27'), ('\\', '\\'), ('N', '\x85'), ('_', '\xa0'), ('L', '\u2028'),
   ('P', '\u2029')]

/-- The number of hexadecimal digits after a letter that asks for some. -/
def codeWidth? (c : Char) : Option Nat :=
  if c == 'x' then some 2
  else if c == 'u' then some 4
  else if c == 'U' then some 8
  else none

/-- Reads an escape at a backslash. -/
def readEscape (start : Mark) (c : Cursor) : Except Problem (Char × Cursor) :=
  let letter := (c.peek? 1).getD '\x00'
  match shortEscapes.lookup letter with
  | some x => .ok (x, c.skipMany 2)
  | none =>
    match codeWidth? letter with
    | none => c.problem start "found unknown escape character"
    | some width => do
      let c ← (c.skipMany 2).ensure width
      match hexNumber? width c.rest with
      | none => c.problem start "did not find expected hexdecimal number"
      | some n =>
        if (0xD800 ≤ n ∧ n ≤ 0xDFFF) ∨ 0x10FFFF < n then
          c.problem start "found invalid Unicode character escape code"
        return (Char.ofNat n, c.skipMany width)

/-- The quote that closes a scalar. -/
def quoteOf (single : Bool) : Char :=
  if single then '\x27' else '"'

/-- Reads the visible characters of a quoted scalar up to a gap or the closing quote; the flag
says that an escaped line break was passed. -/
def readQuotedRun (single : Bool) (start : Mark) (c : Cursor) (acc : List Char) :
    (fuel : Nat) → Except Problem (List Char × Bool × Cursor)
  | 0 => .ok (acc, false, c)
  | fuel + 1 => do
    if c.isGapAt 0 then return (acc, false, c)
    if single && c.isAt 0 '\x27' && c.isAt 1 '\x27' then
      let c ← (c.skipMany 2).ensure 2
      readQuotedRun single start c ('\x27' :: acc) fuel
    else if c.isAt 0 (quoteOf single) then return (acc, false, c)
    else if !single && c.isAt 0 '\\' && c.isBreakAt 1 then
      let c ← c.ensure 3
      return (acc, true, c.skip.skipLine)
    else if !single && c.isAt 0 '\\' then
      let (x, c) ← readEscape start c
      let c ← c.ensure 2
      readQuotedRun single start c (x :: acc) fuel
    else
      match c.peek? 0 with
      | none => return (acc, false, c)
      | some x =>
        let c ← c.skip.ensure 2
        readQuotedRun single start c (x :: acc) fuel

/-- Reads a quoted scalar after its opening quote. -/
def readQuoted (single : Bool) (start : Mark) (c : Cursor) (acc : List Char) :
    (fuel : Nat) → Except Problem (List Char × Cursor)
  | 0 => .ok (acc.reverse, c)
  | fuel + 1 => do
    let c ← c.ensure 4
    if c.isAnyDocumentMarker then c.problem start "found unexpected document indicator"
    if c.isAtEnd then c.problem start "found unexpected end of stream"
    let (acc, escapedBreak, c) ← readQuotedRun single start c acc c.steps
    let c ← c.ensure 1
    if c.isAt 0 (quoteOf single) then return (acc.reverse, c.skip)
    let (g, c) ← readGap none start c { lineEnded := escapedBreak } c.steps
    readQuoted single start c (g.folded.reverse ++ acc) fuel

/-! ### Block scalars -/

/-- What to do with the line breaks at the end of a block scalar. -/
inductive Chomping where
  /-- Keep the first. -/
  | clip
  /-- Drop all. -/
  | strip
  /-- Keep all. -/
  | keep
  deriving DecidableEq, Repr

/-- Passes over spaces left of a column, or over all of them if the column is zero. -/
def skipIndent (indent : Nat) (c : Cursor) : (fuel : Nat) → Except Problem Cursor
  | 0 => .ok c
  | fuel + 1 => do
    let c ← c.ensure 1
    if (indent = 0 ∨ c.mark.column < indent) ∧ c.isAt 0 ' ' then skipIndent indent c.skip fuel
    else return c

/-- Reads the indentation of the next line and the empty lines before it. An indentation of
zero is not known yet; `widest` is the deepest column seen. -/
def readBlockBreaks (indent : Nat) (start : Mark) (c : Cursor) (breaks : List Char)
    (widest : Nat) : (fuel : Nat) → Except Problem (List Char × Nat × Cursor)
  | 0 => .ok (breaks, widest, c)
  | fuel + 1 => do
    let c ← skipIndent indent c c.steps
    let widest := max widest c.mark.column
    if (indent = 0 ∨ c.mark.column < indent) ∧ c.isAt 0 '\t' then
      c.problem start "found a tab character where an indentation space is expected"
    else if c.isBreakAt 0 then
      let c ← c.ensure 2
      readBlockBreaks indent start c.skipLine (breaks ++ c.lineBreak) widest fuel
    else return (breaks, widest, c)

/-- The content of a block scalar so far. -/
structure BlockText where
  /-- The text, last character first. -/
  reversed : List Char := []
  /-- The line break after the last line. -/
  lineBreak : List Char := []
  /-- The empty lines after it. -/
  moreBreaks : List Char := []
  /-- Whether the last line started with a blank. -/
  startedBlank : Bool := false
  deriving Repr, Inhabited

/-- Adds a line to a block scalar. In a folded scalar the break between two lines that start
with visible characters becomes a space. -/
def BlockText.addLine (literal : Bool) (b : BlockText) (line breakAfter : List Char) : BlockText :=
  let startsBlank := line.head?.any isBlankScalar
  let joint :=
    if !literal && !b.startedBlank && !startsBlank && b.lineBreak == ['\n'] then
      (if b.moreBreaks.isEmpty then [' '] else [])
    else b.lineBreak
  { reversed := line.reverse ++ (joint ++ b.moreBreaks).reverse ++ b.reversed
    lineBreak := breakAfter
    moreBreaks := []
    startedBlank := startsBlank }

/-- Reads the lines of a block scalar at the given indentation. -/
def readBlockLines (literal : Bool) (indent : Nat) (start : Mark) (c : Cursor) (b : BlockText) :
    (fuel : Nat) → Except Problem (BlockText × Cursor)
  | 0 => .ok (b, c)
  | fuel + 1 =>
    if c.mark.column = indent ∧ !c.isAtEnd then do
      let (line, c) ← c.skipWhile (fun x => !isBreakScalar x)
      let c ← c.ensure 2
      let b := b.addLine literal line c.lineBreak
      let c := c.skipLine
      let (breaks, _, c) ← readBlockBreaks indent start c [] 0 c.steps
      readBlockLines literal indent start c { b with moreBreaks := breaks } fuel
    else .ok (b, c)

/-- Reads a chomping indicator. -/
def readChomping (c : Cursor) : Except Problem (Option Chomping × Cursor) := do
  let c ← c.ensure 1
  if c.isAt 0 '+' then return (some .keep, c.skip)
  if c.isAt 0 '-' then return (some .strip, c.skip)
  return (none, c)

/-- Reads an indentation indicator. -/
def readIncrement (start : Mark) (c : Cursor) : Except Problem (Nat × Cursor) := do
  let c ← c.ensure 1
  match c.peek? 0 with
  | some x =>
    if x == '0' then c.problem start "found an indentation indicator equal to 0"
    else if x.isDigit then return (x.toNat - 0x30, c.skip)
    else return (0, c)
  | none => return (0, c)

/-- Reads the two indicators after the bar or the angle, in either order. -/
def readBlockHeader (start : Mark) (c : Cursor) : Except Problem (Chomping × Nat × Cursor) := do
  match ← readChomping c with
  | (some chomping, c) =>
    let (increment, c) ← readIncrement start c
    return (chomping, increment, c)
  | (none, c) =>
    let (increment, c) ← readIncrement start c
    if increment = 0 then return (.clip, 0, c)
    let (chomping, c) ← readChomping c
    return (chomping.getD .clip, increment, c)

/-- Reads a block scalar at its bar or angle, inside a block of the given indentation (`-1` at
the top). -/
def readBlock (literal : Bool) (parent : Int) (c : Cursor) :
    Except Problem (List Char × Cursor) := do
  let start := c.mark
  let (chomping, increment, c) ← readBlockHeader start c.skip
  let c ← c.skipRestOfLine start
  let given : Nat := if increment = 0 then 0 else parent.toNat + increment
  let (breaks, widest, c) ← readBlockBreaks given start c [] 0 c.steps
  let indent := if given = 0 then max widest (max (parent + 1).toNat 1) else given
  let (b, c) ← readBlockLines literal indent start c { moreBreaks := breaks } c.steps
  let tail :=
    match chomping with
    | .strip => []
    | .clip => b.lineBreak
    | .keep => b.lineBreak ++ b.moreBreaks
  return (b.reversed.reverse ++ tail, c)

end StructuralLint.Yaml
