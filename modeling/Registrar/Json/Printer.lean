import Registrar.Value

/-!
# JSON text

Two texts of a value. `compact` has no blanks; `pretty` gives each item and each member a line of
its own, two spaces deeper than the container around it. Members stand in the order in which the
value lists them. In strings only quotes, backslashes and control characters are escaped.
-/

namespace Registrar.Json

/-! ## Strings -/

/-- The digit of a number below 16, in lower case. -/
def hexDigit (n : Nat) : Char := Nat.digitChar n

/-- What stands for the character in a quoted string. -/
def escape (c : Char) : List Char :=
  if c = '"' then ['\\', '"']
  else if c = '\\' then ['\\', '\\']
  else if c = '\n' then ['\\', 'n']
  else if c = '\r' then ['\\', 'r']
  else if c = '\t' then ['\\', 't']
  else if c = '\x08' then ['\\', 'b']
  else if c = '\x0c' then ['\\', 'f']
  else if c.toNat < 0x20 then
    ['\\', 'u', '0', '0', hexDigit (c.toNat / 16), hexDigit (c.toNat % 16)]
  else [c]

/-- The quoted form of a string. -/
def quoted (s : String) : List Char := '"' :: s.toList.flatMap escape ++ ['"']

/-- The text of a value that is no container. -/
def scalarText : Value → List Char
  | .null => ['n', 'u', 'l', 'l']
  | .bool true => ['t', 'r', 'u', 'e']
  | .bool false => ['f', 'a', 'l', 's', 'e']
  | .number n => (n.text .json).toList
  | .string s => quoted s
  | _ => []

/-! ## Compact text -/

mutual

/-- The text of a value without blanks. -/
def compactChars : Value → List Char
  | .array xs => '[' :: compactItems xs
  | .object ms => '\x7b' :: compactMembers ms
  | v => scalarText v

/-- The items of an array with commas between them, and the closing bracket. -/
def compactItems : List Value → List Char
  | [] => [']']
  | [x] => compactChars x ++ [']']
  | x :: xs => compactChars x ++ ',' :: compactItems xs

/-- The members of an object with commas between them, and the closing brace. -/
def compactMembers : List (String × Value) → List Char
  | [] => ['\x7d']
  | [(k, x)] => quoted k ++ ':' :: compactChars x ++ ['\x7d']
  | (k, x) :: ms => quoted k ++ ':' :: compactChars x ++ ',' :: compactMembers ms

end

/-- The text of a value without blanks. -/
def compact (v : Value) : String := String.ofList (compactChars v)

/-! ## Indented text -/

/-- A new line at the given depth. -/
def newLine (depth : Nat) : List Char := '\n' :: List.replicate (2 * depth) ' '

mutual

/-- The indented text of a value inside `depth` containers. -/
def prettyChars (depth : Nat) : Value → List Char
  | .array [] => ['[', ']']
  | .array (x :: xs) =>
    '[' :: newLine (depth + 1) ++ prettyChars (depth + 1) x ++ prettyItems depth xs
  | .object [] => ['\x7b', '\x7d']
  | .object ((k, x) :: ms) =>
    '\x7b' :: newLine (depth + 1) ++ quoted k ++ ':' :: ' ' :: prettyChars (depth + 1) x ++
      prettyMembers depth ms
  | v => scalarText v

/-- The items of an array at `depth` that follow another one, and the closing bracket. -/
def prettyItems (depth : Nat) : List Value → List Char
  | [] => newLine depth ++ [']']
  | x :: xs => ',' :: newLine (depth + 1) ++ prettyChars (depth + 1) x ++ prettyItems depth xs

/-- The members of an object at `depth` that follow another one, and the closing brace. -/
def prettyMembers (depth : Nat) : List (String × Value) → List Char
  | [] => newLine depth ++ ['\x7d']
  | (k, x) :: ms =>
    ',' :: newLine (depth + 1) ++ quoted k ++ ':' :: ' ' :: prettyChars (depth + 1) x ++
      prettyMembers depth ms

end

/-- The indented text of a value. -/
def pretty (v : Value) : String := String.ofList (prettyChars 0 v)

end Registrar.Json

namespace Registrar.Value

/-- The form in which values of different kinds are compared: the text of a string itself, and the
compact text of any other value. -/
def canonicalText : Value → String
  | string s => s
  | v => Json.compact v

end Registrar.Value
