import StructuralLint.Text.Basic

/-!
# Lines of variable files

A line ends at a line feed, at a carriage return, or at both together, and holds fewer than 65536
bytes. A file is read block by block into a buffer that grows with the longest line. A carriage
return that is the last byte read so far ends its line at once, so a line feed after it ends one
more, empty line.
-/

namespace StructuralLint.Dotenv

/-- The greatest size of the buffer. -/
def bufferLimit : Nat := 65536

/-- How far a file has been read; positions are counted in bytes from its start. -/
structure Reading where
  /-- The position of the start of the buffer. -/
  base : Nat := 0
  /-- The size of the buffer. -/
  capacity : Nat := 0
  /-- The position up to which the file has been read. -/
  upTo : Nat := 0
  deriving DecidableEq, Repr

/-- Reads one more block of a file of the given size, for a line that starts at `start`. The
first block has three bytes, all others fill the buffer. A line that fills the greatest buffer
leaves no room. -/
def Reading.more? (r : Reading) (total start : Nat) : Option Reading :=
  let isFull := r.upTo - r.base = r.capacity
  let base := if isFull || r.capacity / 2 < start - r.base then start else r.base
  if r.upTo - base = r.capacity then
    if bufferLimit ≤ r.capacity then none
    else
      let capacity := if r.capacity = 0 then 4096 else 2 * r.capacity
      some ⟨start, capacity, Nat.min total (if r.capacity = 0 then 3 else start + capacity)⟩
  else some ⟨base, r.capacity, Nat.min total (base + r.capacity)⟩

/-- Reads on until a position has been read, or the end of the file has been found. A line takes
few blocks, because the buffer doubles. -/
def Reading.reach? (total start position : Nat) : (fuel : Nat) → Reading → Option Reading
  | 0, r => some r
  | fuel + 1, r =>
    if position < r.upTo then some r
    else if r.upTo = total then r.more? total start
    else (r.more? total start).bind (reach? total start position fuel)

/-- A rune that ends a line. -/
def isBreak (r : Rune) : Bool :=
  r.isChar '\n' || r.isChar '\r'

/-- The lines of a file from `start` on, and whether reading stops at one that is too long. -/
def linesFrom (total : Nat) (acc : List Text) (start : Nat) (r : Reading) :
    (fuel : Nat) → Text → List Text × Bool
  | 0, _ => (acc.reverse, false)
  | fuel + 1, t =>
    if t.isEmpty then (acc.reverse, false)
    else
      let line := t.takeWhile fun r => !isBreak r
      let stop := start + Text.size line
      match r.reach? total start stop 20 with
      | none => (acc.reverse, true)
      | some r =>
        match t.drop line.length with
        | [] => ((line :: acc).reverse, false)
        | .char '\r' :: .char '\n' :: rest =>
          if stop + 1 < r.upTo then linesFrom total (line :: acc) (stop + 2) r fuel rest
          else linesFrom total (line :: acc) (stop + 1) r fuel (.char '\n' :: rest)
        | _ :: rest => linesFrom total (line :: acc) (stop + 1) r fuel rest

/-- The lines of a file, and whether reading stops at one that is too long. -/
def lines (file : Text) : List Text × Bool :=
  linesFrom (Text.size file) [] 0 {} (file.length + 1) file

end StructuralLint.Dotenv
