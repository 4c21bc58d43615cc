import StructuralLint.Number.Integer
import StructuralLint.Settings.Convert
import StructuralLint.Text.Quoted

/-!
# Flags

The flags of the command line. A flag starts with one or two hyphens and ends the flags if it is
no flag at all: the first argument that does not start with a hyphen, a lone `-`, or `--`, which
is dropped. A switch is on unless a value follows an equals sign; any other flag takes its value
after an equals sign or from the next argument. Where a flag is given again, the last one counts,
but its two names must not be mixed.
-/

namespace StructuralLint

/-- The flags. -/
inductive Flag where
  | config
  | format
  | legacyLineNumbers
  | noZeroIndentFallback
  | logLevel
  | dumpTree
  | workers
  | help
  deriving DecidableEq, Repr

/-- What a flag takes. -/
inductive FlagKind where
  | text
  | switch
  | number
  deriving DecidableEq, Repr

/-- What a flag was given. -/
inductive FlagValue where
  | text (t : Text)
  | switch (b : Bool)
  | number (n : Int)
  deriving DecidableEq, Repr

namespace Flag

/-- All flags of the program, in the order in which they are listed. -/
def all : List Flag :=
  [config, format, legacyLineNumbers, noZeroIndentFallback, logLevel, dumpTree, workers, help]

/-- The name of a flag. -/
def name : Flag → String
  | config => "config"
  | format => "format"
  | legacyLineNumbers => "legacy-line-numbers"
  | noZeroIndentFallback => "no-zero-indent-fallback"
  | logLevel => "log-level"
  | dumpTree => "dump-tree"
  | workers => "workers"
  | help => "help"

/-- The short name of a flag. -/
def shortName? : Flag → Option String
  | config => some "c"
  | format => some "f"
  | help => some "h"
  | _ => none

/-- The names of a flag. -/
def names (f : Flag) : List String :=
  f.name :: f.shortName?.toList

/-- What a flag takes. -/
def kind : Flag → FlagKind
  | config | format | logLevel => .text
  | legacyLineNumbers | noZeroIndentFallback | dumpTree | help => .switch
  | workers => .number

/-- What a flag is for. -/
def purpose : Flag → String
  | config => "path to a config file (default: ./.yamlint.yaml when present)"
  | format => "output format: text, json or yaml"
  | legacyLineNumbers => "report structural findings at tree position + 2 (default: false)"
  | noZeroIndentFallback => "count unindented lines as indent 0 instead of 1 (default: false)"
  | logLevel => "debug, info, warn or error"
  | dumpTree => "print the indent tree of every input instead of linting (default: false)"
  | workers => "number of files linted concurrently (default: 0)"
  | help => "show help"

/-- The flag among some that has a name. -/
def ofName? (flags : List Flag) (name : Text) : Option Flag :=
  flags.find? fun f => f.names.any fun n => name = Text.ofString n

end Flag

/-- Why the flags cannot be understood. -/
inductive UsageError where
  /-- There is no name after the hyphens. -/
  | badSyntax (argument : Text)
  /-- There is no such flag. -/
  | undefined (name : Text)
  /-- The value is missing. -/
  | missingValue (name : Text)
  /-- The value of a switch is neither on nor off. -/
  | badSwitch (value name : Text)
  /-- The value is no number. -/
  | badNumber (value name : Text) (cause : IntegerError)
  /-- Both names of a flag are used. -/
  | twoForms (short long : String)
  deriving DecidableEq, Repr

/-- The wording of an error. -/
def UsageError.message : UsageError → Text
  | badSyntax argument => Text.ofString "bad flag syntax: " ++ argument
  | undefined name => Text.ofString "flag provided but not defined: -" ++ name
  | missingValue name => Text.ofString "flag needs an argument: -" ++ name
  | badSwitch value name =>
    Text.ofString "invalid boolean value " ++ value.quoted ++ Text.ofString " for -" ++ name ++
      Text.ofString ": parse error"
  | badNumber value name cause =>
    Text.ofString "invalid value " ++ value.quoted ++ Text.ofString " for flag -" ++ name ++
      (match cause with
        | .malformed => Text.ofString ": parse error"
        | .outOfRange => Text.ofString ": value out of range")
  | twoForms short long =>
    Text.ofString ("Cannot use two forms of the same flag: " ++ short ++ " " ++ long)

/-- A flag as it was given. -/
structure FlagUse where
  /-- The flag. -/
  flag : Flag
  /-- The name that was used. -/
  name : Text
  /-- What it was given. -/
  value : FlagValue
  deriving DecidableEq, Repr

namespace Flag

/-- What an argument is. -/
inductive Argument where
  /-- It ends the flags and is not one of the rest. -/
  | terminator
  /-- It is the first of the rest. -/
  | operand
  /-- It is a flag without a name. -/
  | nameless
  /-- It is a flag, perhaps with its value. -/
  | flag (name : Text) (value : Option Text)
  deriving DecidableEq, Repr

/-- The name of a flag and the value after the equals sign, which is not the first character. -/
def splitName (body : Text) : Argument :=
  match body with
  | [] => .nameless
  | first :: rest =>
    if first.isChar '-' || first.isChar '=' then .nameless
    else
      let (name, value) := Text.cut '=' rest
      .flag (first :: name) value

/-- What an argument is. -/
def classify (argument : Text) : Argument :=
  match argument with
  | .char '-' :: .char '-' :: body => if body.isEmpty then .terminator else splitName body
  | .char '-' :: body => if body.isEmpty then .operand else splitName body
  | _ => .operand

/-- The value of a switch. -/
def switchValue (name : Text) (value : Option Text) : Except UsageError FlagValue :=
  match value with
  | none => .ok (.switch true)
  | some t =>
    match spelledFlag? t with
    | some b => .ok (.switch b)
    | none => .error (.badSwitch t name)

/-- The value of a flag that takes a text or a number. -/
def givenValue (flag : Flag) (name value : Text) : Except UsageError FlagValue :=
  match flag.kind with
  | .number =>
    match Integer.parse value with
    | .ok n => .ok (.number n)
    | .error e => .error (.badNumber value name e)
  | _ => .ok (.text value)

/-- Puts the use of a flag before what the arguments after it give. -/
def withUse (flag : Flag) (name : Text) (value : Except UsageError FlagValue)
    (rest : Except UsageError (List FlagUse × List Text)) :
    Except UsageError (List FlagUse × List Text) := do
  let v ← value
  let (uses, operands) ← rest
  return (⟨flag, name, v⟩ :: uses, operands)

/-- A use changes nothing about the operands. -/
theorem eq_ok_of_withUse {flag : Flag} {name : Text} {value : Except UsageError FlagValue}
    {rest : Except UsageError (List FlagUse × List Text)} {uses : List FlagUse}
    {operands : List Text} (h : withUse flag name value rest = .ok (uses, operands)) :
    ∃ others, rest = .ok (others, operands) := by
  match value, rest with
  | .error _, _ => simp [withUse, bind, Except.bind] at h
  | .ok _, .error _ => simp [withUse, bind, Except.bind] at h
  | .ok _, .ok (others, _) =>
    simp [withUse, bind, Except.bind, pure, Except.pure] at h
    exact ⟨others, by rw [h.2]⟩

/-- Reads flags from the front of the arguments: their uses in order, and the rest. -/
def readUses (flags : List Flag) : List Text → Except UsageError (List FlagUse × List Text)
  | [] => .ok ([], [])
  | argument :: rest =>
    match classify argument with
    | .terminator => .ok ([], rest)
    | .operand => .ok ([], argument :: rest)
    | .nameless => .error (.badSyntax argument)
    | .flag name value =>
      match ofName? flags name with
      | none => .error (.undefined name)
      | some flag =>
        if flag.kind = .switch then
          withUse flag name (switchValue name value) (readUses flags rest)
        else
          match value, rest with
          | some value, rest =>
            withUse flag name (givenValue flag name value) (readUses flags rest)
          | none, value :: rest =>
            withUse flag name (givenValue flag name value) (readUses flags rest)
          | none, [] => .error (.missingValue name)

/-- The operands are what the flags leave of the arguments. -/
theorem suffix_of_readUses {flags : List Flag} {arguments operands : List Text}
    {uses : List FlagUse} (h : readUses flags arguments = .ok (uses, operands)) :
    operands <:+ arguments := by
  fun_induction readUses flags arguments generalizing uses operands with
  | case1 => simp_all
  | case2 => simp_all
  | case3 => simp_all
  | case4 => simp at h
  | case5 => simp at h
  | case6 _ _ _ _ _ _ _ _ ih =>
    obtain ⟨_, h⟩ := eq_ok_of_withUse h
    exact (ih h).trans (List.suffix_cons _ _)
  | case7 _ _ _ _ _ _ _ _ ih =>
    obtain ⟨_, h⟩ := eq_ok_of_withUse h
    exact (ih h).trans (List.suffix_cons _ _)
  | case8 _ _ _ _ _ _ _ _ ih =>
    obtain ⟨_, h⟩ := eq_ok_of_withUse h
    exact ((ih h).trans (List.suffix_cons _ _)).trans (List.suffix_cons _ _)
  | case9 => simp at h

/-- The first flag that is used under both its names. -/
def mixed? (flags : List Flag) (uses : List FlagUse) : Option UsageError :=
  flags.findSome? fun f =>
    match f.shortName? with
    | none => none
    | some short =>
      let isUsed (n : String) : Bool := uses.any fun u => u.name = Text.ofString n
      if isUsed f.name && isUsed short then some (.twoForms short f.name) else none

/-- Reads flags and checks that no flag is used under both its names. -/
def parse (flags : List Flag) (arguments : List Text) :
    Except UsageError (List FlagUse × List Text) := do
  let (uses, operands) ← readUses flags arguments
  match mixed? flags uses with
  | some e => .error e
  | none => return (uses, operands)

/-- The operands are what the flags leave of the arguments. -/
theorem suffix_of_parse {flags : List Flag} {arguments operands : List Text}
    {uses : List FlagUse} (h : parse flags arguments = .ok (uses, operands)) :
    operands <:+ arguments := by
  match hr : readUses flags arguments with
  | .error _ => simp [parse, hr, bind, Except.bind] at h
  | .ok (others, rest) =>
    simp only [parse, hr, bind, Except.bind] at h
    split at h
    · simp at h
    · simp [pure, Except.pure] at h
      exact h.2 ▸ suffix_of_readUses hr

/-- The value that counts for a flag. -/
def value? (uses : List FlagUse) (flag : Flag) : Option FlagValue :=
  ((uses.filter (·.flag = flag)).getLast?).map (·.value)

/-- The text a flag was given. -/
def text? (uses : List FlagUse) (flag : Flag) : Option Text :=
  match value? uses flag with
  | some (.text t) => some t
  | _ => none

/-- What a switch was set to. -/
def switch? (uses : List FlagUse) (flag : Flag) : Option Bool :=
  match value? uses flag with
  | some (.switch b) => some b
  | _ => none

/-- The number a flag was given. -/
def number? (uses : List FlagUse) (flag : Flag) : Option Int :=
  match value? uses flag with
  | some (.number n) => some n
  | _ => none

/-- Whether a switch is on. -/
def isOn (uses : List FlagUse) (flag : Flag) : Bool :=
  (switch? uses flag).getD false

end Flag

end StructuralLint
