import StructuralLint.Yaml.Scan

/-!
# YAML trees

The tree that the tokens of a document describe: scalars, sequences, mappings, and aliases, which
stand for the tree that an anchor names. A tree can contain an alias to itself, so aliases refer
to anchors by number and a document keeps its anchored trees in a table.

`readDocument` puts the first document of a stream together. Reading follows the grammar: every
reading function takes the tokens from the front and either gives a tree and the state after it
or the problem found. Tokens run out only where reading them met a problem of its own.
-/

namespace StructuralLint.Yaml

/-- A part of a document. Lines are counted from one; a tag is in its short form. -/
inductive Tree where
  | scalar (line : Nat) (tag : Option Text) (value : List Char) (form : ScalarForm)
  | sequence (line : Nat) (tag : Option Text) (items : List Tree)
  | mapping (line : Nat) (tag : Option Text) (entries : List (Tree × Tree))
  | reference (line : Nat) (name : List Char) (anchor : Nat)
  deriving Repr, Inhabited

/-- The line a tree starts at. -/
def Tree.line : Tree → Nat
  | scalar line _ _ _ | sequence line _ _ | mapping line _ _ | reference line _ _ => line

/-- The document at the start of a stream. -/
structure Document where
  /-- Its tree; `none` if the stream has no document. -/
  tree : Option Tree
  /-- The trees that anchors name, by number. -/
  anchored : List (Nat × Tree)
  deriving Repr, Inhabited

/-- Why a stream has no document. -/
inductive ReadFailure where
  /-- The stream is not well formed. -/
  | malformed (problem : Problem)
  /-- An alias names no anchor. -/
  | unknownAnchor (name : List Char)
  deriving DecidableEq, Repr

/-- The wording of a failure to read. -/
def ReadFailure.message : ReadFailure → Text
  | malformed p => p.message
  | unknownAnchor name =>
    Text.ofString "unknown anchor '" ++ name.map Rune.char ++ Text.ofString "' referenced"

namespace Tree

/-- A document half read. -/
structure Progress where
  /-- The tokens to come. -/
  tokens : List Token
  /-- The problem after them. -/
  problem : Option Problem
  /-- What tag handles stand for. -/
  handles : List (List Char × Text) := []
  /-- The numbers of the anchors, the latest first. -/
  anchors : List (List Char × Nat) := []
  /-- The trees that anchors name. -/
  anchored : List (Nat × Tree) := []
  /-- The number of the next anchor. -/
  nextAnchor : Nat := 0
  deriving Inhabited

/-- Reading parts of a document. -/
abbrev Reader := StateT Progress (Except ReadFailure)

/-- Ends reading with a problem. -/
def fail {α : Type} (context found : Mark) (text : String) : Reader α :=
  throw (.malformed ⟨.grammar, context.line, found.line, text⟩)

/-- The next token. -/
def peek : Reader Token := do
  let p ← get
  match p.tokens with
  | t :: _ => return t
  | [] =>
    let unknown : Problem := ⟨.grammar, 0, 0, "unknown problem parsing YAML content"⟩
    throw (.malformed (p.problem.getD unknown))

/-- Passes over the next token. -/
def drop : Reader Unit :=
  modify fun p => { p with tokens := p.tokens.tail }

/-- Passes over the next token and gives the one after it. -/
def dropAndPeek : Reader Token := do
  drop
  peek

/-- A node of which nothing is written. -/
def blank (mark : Mark) : Tree :=
  scalar (mark.line + 1) none [] .plain

/-! ### What stands before a node -/

/-- What stands before a node. -/
structure Lead where
  /-- Where the node starts. -/
  start : Mark
  /-- The number of its anchor. -/
  anchor : Option Nat := none
  /-- Whether it has a tag, even one that says nothing. -/
  isTagged : Bool := false
  /-- Its tag. -/
  tag : Option Text := none
  deriving Inhabited

/-- The common start of the tags of the language itself. -/
def languageTag : Text := "tag:yaml.org,2002:"

/-- The short form of a tag. -/
def shortTag (tag : Text) : Text :=
  if languageTag.isPrefixOf tag then Text.ofString "!!" ++ tag.drop languageTag.length else tag

/-- Gives an anchor its number. -/
def registerAnchor (name : List Char) : Reader Nat := do
  let p ← get
  set { p with
    anchors := (name, p.nextAnchor) :: p.anchors
    nextAnchor := p.nextAnchor + 1 }
  return p.nextAnchor

/-- What a tag stands for, written out. -/
def expandTag (start mark : Mark) (handle : List Char) (suffix : Text) : Reader Text := do
  if handle.isEmpty then return suffix
  match (← get).handles.lookup handle with
  | some expansion =>
    if (expansion ++ suffix).isEmpty then fail start mark "found undefined tag handle"
    return expansion ++ suffix
  | none => fail start mark "found undefined tag handle"

/-- The tag of a lead; a lone exclamation mark says nothing. -/
def Lead.withTag (lead : Lead) (tag : Text) : Lead :=
  { lead with isTagged := true, tag := if tag = [.char '!'] then none else some (shortTag tag) }

/-- Reads an anchor and a tag, in either order; the anchor is registered after both. -/
def readLead : Reader Lead := do
  let first ← peek
  let lead : Lead := { start := first.start }
  match first.kind with
  | .anchor name =>
    let next ← dropAndPeek
    match next.kind with
    | .tag handle suffix =>
      drop
      let _ ← peek
      let lead := lead.withTag (← expandTag first.start next.start handle suffix)
      return { lead with anchor := some (← registerAnchor name) }
    | _ => return { lead with anchor := some (← registerAnchor name) }
  | .tag handle suffix =>
    let next ← dropAndPeek
    match next.kind with
    | .anchor name =>
      drop
      let _ ← peek
      let lead := lead.withTag (← expandTag first.start first.start handle suffix)
      return { lead with anchor := some (← registerAnchor name) }
    | _ => return lead.withTag (← expandTag first.start first.start handle suffix)
  | _ => return lead

/-- Notes the tree that an anchor names. -/
def Lead.record (lead : Lead) (t : Tree) : Reader Tree := do
  match lead.anchor with
  | some n => modify fun p => { p with anchored := (n, t) :: p.anchored }
  | none => pure ()
  return t

/-! ### Nodes -/

/-- Whether a token ends an entry of a block mapping. -/
def endsBlockPart (kind : TokenKind) : Bool :=
  kind = .key || kind = .value || kind = .blockEnd

/-- Whether a token ends a part of a flow collection that `close` closes. -/
def endsFlowPart (close kind : TokenKind) : Bool :=
  kind = .flowEntry || kind = close

mutual

/-- Reads a node. Block collections are read only if `block` allows them, and a list at the
indentation of its key only if `indentless` does. -/
def readNode (block indentless : Bool) : (fuel : Nat) → Reader Tree
  | 0 => fail {} {} "exceeded max depth"
  | fuel + 1 => do
    let t ← peek
    match t.kind with
    | .reference name =>
      match (← get).anchors.lookup name with
      | some n =>
        drop
        return .reference (t.start.line + 1) name n
      | none => throw (.unknownAnchor name)
    | _ => readContent block indentless (← readLead) fuel

/-- Reads a node after its lead. -/
def readContent (block indentless : Bool) (lead : Lead) : (fuel : Nat) → Reader Tree
  | 0 => fail {} {} "exceeded max depth"
  | fuel + 1 => do
    let t ← peek
    let line := lead.start.line + 1
    if indentless && t.kind = .blockEntry then
      lead.record (.sequence line lead.tag (← readIndentless [] fuel))
    else
      match t.kind with
      | .scalar value form =>
        drop
        lead.record (.scalar line lead.tag value form)
      | .flowSequenceStart =>
        drop
        lead.record (.sequence line lead.tag (← readFlowItems t.start true [] fuel))
      | .flowMappingStart =>
        drop
        lead.record (.mapping line lead.tag (← readFlowMembers t.start true [] fuel))
      | kind =>
        if block && kind = .blockSequenceStart then
          drop
          lead.record (.sequence line lead.tag (← readBlockItems t.start [] fuel))
        else if block && kind = .blockMappingStart then
          drop
          lead.record (.mapping line lead.tag (← readBlockMembers t.start [] fuel))
        else if lead.anchor.isSome || lead.isTagged then
          lead.record (.scalar line lead.tag [] .plain)
        else fail lead.start t.start "did not find expected node content"

/-- Reads the entries of a list at the indentation of its key. -/
def readIndentless (acc : List Tree) : (fuel : Nat) → Reader (List Tree)
  | 0 => fail {} {} "exceeded max depth"
  | fuel + 1 => do
    let t ← peek
    if t.kind = .blockEntry then
      let next ← dropAndPeek
      if next.kind = .blockEntry || endsBlockPart next.kind then
        readIndentless (blank t.stop :: acc) fuel
      else
        let item ← readNode true false fuel
        readIndentless (item :: acc) fuel
    else return acc.reverse

/-- Reads the entries of a list that is a block. -/
def readBlockItems (start : Mark) (acc : List Tree) : (fuel : Nat) → Reader (List Tree)
  | 0 => fail {} {} "exceeded max depth"
  | fuel + 1 => do
    let t ← peek
    if t.kind = .blockEntry then
      let next ← dropAndPeek
      if next.kind = .blockEntry || next.kind = .blockEnd then
        readBlockItems start (blank t.stop :: acc) fuel
      else
        let item ← readNode true false fuel
        readBlockItems start (item :: acc) fuel
    else if t.kind = .blockEnd then
      drop
      return acc.reverse
    else fail start t.start "did not find expected '-' indicator"

/-- Reads the value after a key of a block mapping. -/
def readBlockValue : (fuel : Nat) → Reader Tree
  | 0 => fail {} {} "exceeded max depth"
  | fuel + 1 => do
    let t ← peek
    if t.kind = .value then
      let next ← dropAndPeek
      if endsBlockPart next.kind then return blank t.stop
      readNode true true fuel
    else return blank t.start

/-- Reads the entries of a block mapping. -/
def readBlockMembers (start : Mark) (acc : List (Tree × Tree)) :
    (fuel : Nat) → Reader (List (Tree × Tree))
  | 0 => fail {} {} "exceeded max depth"
  | fuel + 1 => do
    let t ← peek
    if t.kind = .key then
      let next ← dropAndPeek
      let key ← if endsBlockPart next.kind then pure (blank t.stop) else readNode true true fuel
      let value ← readBlockValue fuel
      readBlockMembers start ((key, value) :: acc) fuel
    else if t.kind = .blockEnd then
      drop
      return acc.reverse
    else fail start t.start "did not find expected key"

/-- Reads the single entry of a mapping that stands in a bracketed list without braces. -/
def readPair : (fuel : Nat) → Reader (Tree × Tree)
  | 0 => fail {} {} "exceeded max depth"
  | fuel + 1 => do
    let t ← peek
    let key ←
      if t.kind = .value || endsFlowPart .flowSequenceEnd t.kind then do
        drop
        pure (blank t.stop)
      else readNode false false fuel
    let t ← peek
    if t.kind = .value then
      let next ← dropAndPeek
      if endsFlowPart .flowSequenceEnd next.kind then return (key, blank t.start)
      return (key, ← readNode false false fuel)
    else return (key, blank t.start)

/-- Reads the items of a bracketed list after its opening bracket. -/
def readFlowItems (start : Mark) (isFirst : Bool) (acc : List Tree) :
    (fuel : Nat) → Reader (List Tree)
  | 0 => fail {} {} "exceeded max depth"
  | fuel + 1 => do
    let t ← peek
    if t.kind = .flowSequenceEnd then
      drop
      return acc.reverse
    let t ←
      if isFirst then pure t
      else if t.kind = .flowEntry then dropAndPeek
      else fail start t.start "did not find expected ',' or ']'"
    if t.kind = .key then
      drop
      let pair ← readPair fuel
      let _ ← peek
      readFlowItems start false (.mapping (t.start.line + 1) none [pair] :: acc) fuel
    else if t.kind = .flowSequenceEnd then
      drop
      return acc.reverse
    else
      let item ← readNode false false fuel
      readFlowItems start false (item :: acc) fuel

/-- Reads the entries of a mapping in braces after its opening brace. -/
def readFlowMembers (start : Mark) (isFirst : Bool) (acc : List (Tree × Tree)) :
    (fuel : Nat) → Reader (List (Tree × Tree))
  | 0 => fail {} {} "exceeded max depth"
  | fuel + 1 => do
    let t ← peek
    if t.kind = .flowMappingEnd then
      drop
      return acc.reverse
    let t ←
      if isFirst then pure t
      else if t.kind = .flowEntry then dropAndPeek
      else fail start t.start "did not find expected ',' or '\x7d'"
    if t.kind = .key then
      let next ← dropAndPeek
      let key ←
        if next.kind = .value || endsFlowPart .flowMappingEnd next.kind then
          pure (blank next.start)
        else readNode false false fuel
      let t ← peek
      if t.kind = .value then
        let next ← dropAndPeek
        let value ←
          if endsFlowPart .flowMappingEnd next.kind then pure (blank next.start)
          else readNode false false fuel
        readFlowMembers start false ((key, value) :: acc) fuel
      else readFlowMembers start false ((key, blank t.start) :: acc) fuel
    else if t.kind = .flowMappingEnd then
      drop
      return acc.reverse
    else
      let key ← readNode false false fuel
      let t ← peek
      readFlowMembers start false ((key, blank t.start) :: acc) fuel

end

/-! ### Documents -/

/-- The tag handles that every document has. -/
def commonHandles : List (List Char × Text) :=
  [(['!'], [.char '!']), (['!', '!'], languageTag)]

/-- Reads the directives of a document; `isVersioned` says that one gave a version. -/
def readDirectives (isVersioned : Bool) : (fuel : Nat) → Reader Unit
  | 0 => pure ()
  | fuel + 1 => do
    let t ← peek
    match t.kind with
    | .versionDirective major minor =>
      if isVersioned then fail {} t.start "found duplicate %YAML directive"
      if major ≠ 1 ∨ minor ≠ 1 then fail {} t.start "found incompatible YAML document"
      drop
      readDirectives true fuel
    | .tagDirective handle expansion =>
      if ((← get).handles.lookup handle).isSome then
        fail {} t.start "found duplicate %TAG directive"
      modify fun p => { p with handles := p.handles ++ [(handle, expansion)] }
      drop
      readDirectives isVersioned fuel
    | _ =>
      let isNew (p : Progress) (h : List Char × Text) : Bool := (p.handles.lookup h.1).isNone
      modify fun p => { p with handles := p.handles ++ commonHandles.filter (isNew p) }

/-- Whether a token ends the content of a document. -/
def endsDocument : TokenKind → Bool
  | .versionDirective _ _ | .tagDirective _ _ | .documentStart | .documentEnd | .streamEnd => true
  | _ => false

/-- Reads the first document: the start of the stream, directives, the content, and a look at
what follows. -/
def readFirst (fuel : Nat) : Reader (Option Tree) := do
  let _ ← peek
  let t ← dropAndPeek
  match t.kind with
  | .streamEnd => return none
  | .versionDirective _ _ | .tagDirective _ _ | .documentStart =>
    readDirectives false fuel
    let t ← peek
    if t.kind ≠ .documentStart then
      fail {} t.start "did not find expected <document start>"
    let next ← dropAndPeek
    let tree ← if endsDocument next.kind then pure (blank next.start) else readNode true false fuel
    let _ ← peek
    return some tree
  | _ =>
    readDirectives false fuel
    let tree ← readNode true false fuel
    let _ ← peek
    return some tree

end Tree

/-- Reads the first document of a stream. Every call below takes a token or is one of a few
between two tokens. -/
def readDocument (bytes : List UInt8) : Except ReadFailure Document :=
  let (ts, problem) := tokens (blocks bytes)
  match (Tree.readFirst (4 * ts.length + 16)).run { tokens := ts, problem } with
  | .error e => .error e
  | .ok (tree, p) => .ok ⟨tree, p.anchored⟩

end StructuralLint.Yaml
