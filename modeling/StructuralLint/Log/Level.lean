import StructuralLint.Text.Lower
import StructuralLint.Text.Quoted

/-!
# Log levels

The seven levels, from `debug` up. A level is read from its name, as written or in lower case;
the empty name means `info`. A logger at a level lets through that level and everything above.
-/

namespace StructuralLint

/-- How important a log entry is. -/
inductive Level where
  | debug
  | info
  | warn
  | error
  | dpanic
  | panic
  | fatal
  deriving DecidableEq, Repr, Inhabited

/-- A level name that names no level. -/
structure LevelError where
  /-- The name as given. -/
  name : Text
  deriving DecidableEq, Repr

/-- The wording of an unknown level name. -/
def LevelError.message (e : LevelError) : Text :=
  Text.ofString "invalid log level " ++ e.name.quoted ++ Text.ofString ": unrecognized level: " ++
    e.name.quoted

namespace Level

/-- All levels, from the least important up. -/
def all : List Level :=
  [debug, info, warn, error, dpanic, panic, fatal]

/-- The name of a level. -/
def name : Level → String
  | debug => "debug"
  | info => "info"
  | warn => "warn"
  | error => "error"
  | dpanic => "dpanic"
  | panic => "panic"
  | fatal => "fatal"

/-- The rank of a level. -/
def rank : Level → Nat
  | debug => 0
  | info => 1
  | warn => 2
  | error => 3
  | dpanic => 4
  | panic => 5
  | fatal => 6

/-- Whether a logger at `threshold` lets the level through. -/
def isEnabled (threshold level : Level) : Bool :=
  threshold.rank ≤ level.rank

/-- Reads a level name in any case. -/
def parse (name : Text) : Except LevelError Level :=
  let lowered := name.lower
  if name.isEmpty then .ok info
  else
    match all.find? (fun l => lowered = Text.ofString l.name) with
    | some l => .ok l
    | none => .error ⟨name⟩

end Level

end StructuralLint
