import StructuralLint.Yaml.Flow

/-!
# Names and tags in a YAML stream

Reading directives, anchors, aliases and tags. A tag may hold bytes that are written in
hexadecimal after a percent sign. They have to look like the bytes of a character, but need not
make one up, so a tag is a text and not a string of characters.
-/

namespace StructuralLint.Yaml

/-! ### Tags -/

/-- The byte that is written after a percent sign. -/
def readEncodedByte (start : Mark) (c : Cursor) : Except Problem (UInt8 × Cursor) := do
  let c ← c.ensure 3
  match c.isAt 0 '%', hexNumber? 2 (c.rest.drop 1) with
  | true, some n => return (UInt8.ofNat n, c.skipMany 3)
  | _, _ => c.problem start "did not find URI escaped octet"

/-- Reads `count` encoded bytes that continue a character; `acc` holds those before them, last
first. -/
def readEncodedTail (start : Mark) (c : Cursor) (acc : List UInt8) :
    (count : Nat) → Except Problem (List UInt8 × Cursor)
  | 0 => .ok (acc.reverse, c)
  | count + 1 => do
    let (b, c') ← readEncodedByte start c
    if !Utf8.isContinuation b then c.problem start "found an incorrect trailing UTF-8 octet"
    readEncodedTail start c' (b :: acc) count

/-- Reads the encoded bytes of a character. -/
def readEncoded (start : Mark) (c : Cursor) : Except Problem (Text × Cursor) := do
  let (b, c') ← readEncodedByte start c
  match announcedWidth? b with
  | none => c.problem start "found an incorrect leading UTF-8 octet"
  | some width =>
    let (bytes, c') ← readEncodedTail start c' [b] (width - 1)
    return (Text.ofBytes bytes, c')

/-- Whether a character may stand in a tag as it is. -/
def isTagScalar (c : Char) : Bool :=
  isWordScalar c || ";/?:@&=+$,.!~*'()[]".toList.contains c

/-- Reads the characters of a tag; `acc` holds what is read, last first. -/
def readTagScalars (start : Mark) (c : Cursor) (acc : Text) :
    (fuel : Nat) → Except Problem (Text × Cursor)
  | 0 => .ok (acc.reverse, c)
  | fuel + 1 => do
    let c ← c.ensure 1
    match c.peek? 0 with
    | none => return (acc.reverse, c)
    | some x =>
      if x == '%' then
        let (runes, c') ← readEncoded start c
        readTagScalars start c' (runes.reverse ++ acc) fuel
      else if isTagScalar x then readTagScalars start c.skip (.char x :: acc) fuel
      else return (acc.reverse, c)

/-- Reads a tag after what has been read as its handle. -/
def readTagUri (start : Mark) (head : List Char) (c : Cursor) :
    Except Problem (Text × Cursor) := do
  let (body, c') ← readTagScalars start c [] c.steps
  if head.isEmpty && body.isEmpty then c'.problem start "did not find expected tag URI"
  return ((head.drop 1).map Rune.char ++ body, c')

/-- Reads a tag handle: words between exclamation marks, the second of which may be missing. -/
def readTagHandle (inDirective : Bool) (start : Mark) (c : Cursor) :
    Except Problem (List Char × Cursor) := do
  let c ← c.ensure 1
  if !c.isAt 0 '!' then c.problem start "did not find expected '!'"
  let (word, c) ← c.skip.skipWhile isWordScalar
  if c.isAt 0 '!' then return ('!' :: word ++ ['!'], c.skip)
  if inDirective && !word.isEmpty then c.problem start "did not find expected '!'"
  return ('!' :: word, c)

/-- Reads a tag: in angles, with a handle, or plain. -/
def readTag (c : Cursor) : Except Problem (TokenKind × Cursor) := do
  let start := c.mark
  let c ← c.ensure 2
  let (kind, c) ←
    if c.isAt 1 '<' then do
      let (suffix, c) ← readTagUri start [] (c.skipMany 2)
      if !c.isAt 0 '>' then c.problem start "did not find the expected '>'"
      pure (TokenKind.tag [] suffix, c.skip)
    else do
      let (handle, c) ← readTagHandle false start c
      if 1 < handle.length && handle.getLast? == some '!' then
        let (suffix, c) ← readTagUri start [] c
        pure (TokenKind.tag handle suffix, c)
      else
        let (suffix, c) ← readTagUri start handle c
        let kind :=
          if suffix.isEmpty then TokenKind.tag [] [.char '!'] else TokenKind.tag ['!'] suffix
        pure (kind, c)
  let c ← c.ensure 1
  if !c.isGapAt 0 then c.problem start "did not find expected whitespace or line break"
  return (kind, c)

/-! ### Anchors and aliases -/

/-- Reads the name of an anchor or an alias. -/
def readName (c : Cursor) : Except Problem (List Char × Cursor) := do
  let start := c.mark
  let (name, c) ← c.skip.skipWhile isWordScalar
  let isClosed := c.isGapAt 0 || (c.peek? 0).any fun x => "?:,]\x7d%@\x60".toList.contains x
  if name.isEmpty || !isClosed then
    c.problem start "did not find expected alphabetic or numeric character"
  return (name, c)

/-! ### Directives -/

/-- Reads the number of a version, of which `digits` have been read, last first. -/
def readVersionNumber (start : Mark) (digits : List Char) (c : Cursor) :
    (fuel : Nat) → Except Problem (Nat × Cursor)
  | 0 => c.problem start "found extremely long version number"
  | fuel + 1 => do
    let c ← c.ensure 1
    match c.peek? 0 with
    | some x =>
      if x.isDigit then
        if fuel = 0 then c.problem start "found extremely long version number"
        else return ← readVersionNumber start (x :: digits) c.skip fuel
    | none => pure ()
    if digits.isEmpty then c.problem start "did not find expected version number"
    return (digits.foldr (fun d n => n * 10 + (d.toNat - 0x30)) 0, c)

/-- Reads the version of a `%YAML` directive. -/
def readVersion (start : Mark) (c : Cursor) : Except Problem (TokenKind × Cursor) := do
  let c ← c.skipBlanks
  let (major, c) ← readVersionNumber start [] c 3
  if !c.isAt 0 '.' then c.problem start "did not find expected digit or '.' character"
  let (minor, c) ← readVersionNumber start [] c.skip 3
  return (.versionDirective major minor, c)

/-- Reads the handle and the expansion of a `%TAG` directive. -/
def readTagDirective (start : Mark) (c : Cursor) : Except Problem (TokenKind × Cursor) := do
  let c ← c.skipBlanks
  let (handle, c) ← readTagHandle true start c
  let c ← c.ensure 1
  if !c.isBlankAt 0 then c.problem start "did not find expected whitespace"
  let (expansion, c) ← readTagUri start [] (← c.skipBlanks)
  if !c.isGapAt 0 then c.problem start "did not find expected whitespace or line break"
  return (.tagDirective handle expansion, c)

/-- Reads a directive at its percent sign: what it says, where it ends, and the cursor at the
start of the next line. -/
def readDirective (c : Cursor) : Except Problem (TokenKind × Mark × Cursor) := do
  let start := c.mark
  let (name, c) ← c.skip.skipWhile isWordScalar
  if name.isEmpty then c.problem start "could not find expected directive name"
  if !c.isGapAt 0 then c.problem start "found unexpected non-alphabetical character"
  let (kind, c) ←
    if name = "YAML".toList then readVersion start c
    else if name = "TAG".toList then readTagDirective start c
    else c.problem start "found unknown directive name"
  return (kind, c.mark, ← c.skipRestOfLine start)

end StructuralLint.Yaml
