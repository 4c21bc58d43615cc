import StructuralLint.Text.Quoted

/-!
# JSON values

JSON values with the members of an object in the order they are written, and numbers as they
are spelled. `Json.pretty` writes a value over several lines, two spaces a level.
-/

namespace StructuralLint

/-- A JSON value. -/
inductive Json where
  | null
  | bool (b : Bool)
  /-- A number, as it is spelled. -/
  | number (literal : Text)
  | string (t : Text)
  | array (items : List Json)
  | object (members : List (Text × Json))
  deriving Repr, Inhabited

namespace Json

/-- An integer. -/
def ofInt (n : Int) : Json :=
  number (Text.ofInt n)

/-- How a rune is written in a string. Markup characters and the two line separators are
escaped, so that the output may stand in a web page; a stray byte becomes the replacement
character. -/
def escaped : Rune → List Char
  | .stray _ => ['\uFFFD']
  | .char c =>
    if c == '"' || c == '\\' then ['\\', c]
    else
      match c.toNat with
      | 0x08 => ['\\', 'b']
      | 0x0C => ['\\', 'f']
      | 0x0A => ['\\', 'n']
      | 0x0D => ['\\', 'r']
      | 0x09 => ['\\', 't']
      | n =>
        if n < 0x20 || c == '<' || c == '>' || c == '&' || n == 0x2028 || n == 0x2029 then
          '\\' :: 'u' :: hexDigits 4 n
        else [c]

/-- A string in quotes. -/
def quoted (t : Text) : Text :=
  .char '"' :: (t.flatMap (fun r => (escaped r).map Rune.char) ++ [.char '"'])

/-- A line break and the indentation of a level. -/
def newline (level : Nat) : Text :=
  .char '\n' :: List.replicate (2 * level) (.char ' ')

mutual

/-- Writes a value whose first line is already indented. -/
def pretty (level : Nat) : Json → Text
  | null => "null"
  | bool b => if b then "true" else "false"
  | number literal => literal
  | string t => quoted t
  | array [] => "[]"
  | array (item :: items) =>
    .char '[' :: (newline (level + 1) ++ pretty (level + 1) item ++
      prettyItems (level + 1) items ++ newline level ++ [.char ']'])
  | object [] => "\x7b\x7d"
  | object ((name, value) :: members) =>
    .char '\x7b' :: (newline (level + 1) ++ quoted name ++ Text.ofString ": " ++
      pretty (level + 1) value ++ prettyMembers (level + 1) members ++ newline level ++
      [.char '\x7d'])

/-- Writes the items of an array after the first. -/
def prettyItems (level : Nat) : List Json → Text
  | [] => []
  | item :: items =>
    .char ',' :: (newline level ++ pretty level item ++ prettyItems level items)

/-- Writes the members of an object after the first. -/
def prettyMembers (level : Nat) : List (Text × Json) → Text
  | [] => []
  | (name, value) :: members =>
    .char ',' :: (newline level ++ quoted name ++ Text.ofString ": " ++ pretty level value ++
      prettyMembers level members)

end

end Json

end StructuralLint
