import StructuralLint.Yaml.Datum

/-!
# Untagged YAML scalars

What a plain scalar without a tag denotes. Only the spellings listed here are anything but a
string: the three capitalisations of `true`, `false` and `null`, `~` and the empty scalar, the
infinities and `.nan`, integers in the usual bases, decimal fractions, and points in time.
The first character decides which of these are tried.
-/

namespace StructuralLint.Yaml

/-- The scalars that are spelled out. -/
def spelled : List (String × Atom) :=
  [("true", .bool true), ("True", .bool true), ("TRUE", .bool true),
   ("false", .bool false), ("False", .bool false), ("FALSE", .bool false),
   ("", .null), ("~", .null), ("null", .null), ("Null", .null), ("NULL", .null),
   (".nan", .float .nan), (".NaN", .float .nan), (".NAN", .float .nan),
   (".inf", .float (.infinite false)), (".Inf", .float (.infinite false)),
   (".INF", .float (.infinite false)),
   ("+.inf", .float (.infinite false)), ("+.Inf", .float (.infinite false)),
   ("+.INF", .float (.infinite false)),
   ("-.inf", .float (.infinite true)), ("-.Inf", .float (.infinite true)),
   ("-.INF", .float (.infinite true))]

/-- The scalar a text spells out, if it is one of the list. -/
def spelled? (t : Text) : Option Atom :=
  (spelled.find? fun e => t = Text.ofString e.1).map (·.2)

/-- Whether a decimal literal is a float in YAML's own notation: no underscores, and an
exponent only after digits. -/
def float? (t : Text) : Option Binary64 :=
  if t.any (Rune.isChar '_') then none else Binary64.parse? t

/-- An integer whose notation starts with a letter after the zero: `0b` and `0o`. -/
def prefixedInteger? (t : Text) : Option Int :=
  let (negative, body) : Bool × Text :=
    match t with
    | .char '-' :: rest => (true, rest)
    | _ => (false, t)
  let base? : Option (Nat × Text) :=
    match body with
    | .char '0' :: .char 'b' :: digits => some (2, digits)
    | .char '0' :: .char 'o' :: digits => some (8, digits)
    | _ => none
  match base? with
  | none => none
  | some (base, digits) =>
    let signed : Text := if negative then .char '-' :: digits else digits
    match Integer.parseBase base signed with
    | .ok n => some n
    | .error _ =>
      if negative then none
      else (Integer.parseUnsignedBase base digits).toOption.map Int.ofNat

/-- What a number-like text denotes: underscores may stand anywhere in it. -/
def number? (t : Text) : Option Atom :=
  let plain := t.filter fun r => !r.isChar '_'
  match Integer.parse plain with
  | .ok n => some (.int n)
  | .error _ =>
    match Integer.parseUnsigned plain with
    | .ok n => some (.int n)
    | .error _ =>
      match float? plain with
      | some x => some (.float x)
      | none => (prefixedInteger? plain).map .int

/-- What a plain scalar denotes. `timed` says whether points in time are recognised. -/
def implicit (timed : Bool) (t : Text) : Atom :=
  match t with
  | [] => .null
  | .char c :: _ =>
    if c.isDigit || c == '+' || c == '-' then
      ((spelled? t) <|>
        (if timed then (Timestamp.parse? t).map Atom.time else none) <|>
        (number? t)).getD (.str t)
    else if c == '.' then
      ((spelled? t) <|> (Binary64.parse? t).map Atom.float).getD (.str t)
    else if "yYnNtTfFoO~".toList.contains c then (spelled? t).getD (.str t)
    else .str t
  | .stray _ :: _ => .str t

/-- Whether a plain scalar would be read as a string. -/
def readsAsString (t : Text) : Bool :=
  match implicit true t with
  | .str _ => true
  | _ => false

end StructuralLint.Yaml
