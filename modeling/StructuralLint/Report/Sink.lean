import StructuralLint.Text.Basic

/-!
# Output sinks

A sink takes pieces of output. A limited sink refuses, as a whole, any piece that would take it
beyond its limit; a later and smaller piece may still fit.
-/

namespace StructuralLint

/-- Where output goes. -/
structure Sink where
  /-- The greatest number of bytes it takes; `none` for no limit. -/
  limit : Option Nat := none
  /-- The pieces it took, last first. -/
  pieces : List Text := []
  /-- The number of bytes it took. -/
  size : Nat := 0
  deriving DecidableEq, Repr, Inhabited

/-- A piece was refused. -/
structure SinkFull where
  deriving DecidableEq, Repr

/-- The wording of a refused piece. -/
def SinkFull.message (_ : SinkFull) : Text :=
  "sink full"

namespace Sink

/-- Everything the sink took. -/
def content (s : Sink) : Text :=
  s.pieces.reverse.flatten

/-- Whether a piece of the given size still fits. -/
def fits (s : Sink) (n : Nat) : Bool :=
  s.limit.all (s.size + n ≤ ·)

/-- Offers a piece. -/
def write? (s : Sink) (piece : Text) : Except SinkFull Sink :=
  if s.fits piece.size then
    .ok { s with pieces := piece :: s.pieces, size := s.size + piece.size }
  else .error {}

/-- Offers pieces until one is refused: the sink then, and whether one was. -/
def writeAll (s : Sink) : List Text → Sink × Option SinkFull
  | [] => (s, none)
  | p :: ps =>
    match s.write? p with
    | .ok s' => s'.writeAll ps
    | .error e => (s, some e)

/-- Offers every piece, whether or not earlier ones were refused. -/
def writeAny (s : Sink) (pieces : List Text) : Sink :=
  pieces.foldl (fun s p => (s.write? p).toOption.getD s) s

end Sink

end StructuralLint
