import Registrar.Number.Shortest
import Registrar.Value
import Registrar.Yaml.Cursor
import Registrar.Yaml.Plain
import Registrar.Yaml.Token

/-!
# Writing YAML text

Values are written as blocks, only empty collections as flow. The items of a sequence under a key
stand in the column of the key; elsewhere the first item or entry of a collection stands on the line
of the mark before it. A string is plain where it reads back as itself, and otherwise in the first
of the other styles that can hold it: between single quotes, as a literal block where it has line
feeds, or between double quotes with escapes.
-/

namespace Registrar.Yaml

/-! ## What a string holds -/

/-- Whether a character is written as it is, even between double quotes. -/
def isPrintable (c : Char) : Bool :=
  c = '\n' || (' ' ≤ c && c ≤ '~') || ('\u00a0' ≤ c && c ≤ '\ufffd' && c ≠ '\ufeff') ||
    0x10000 ≤ c.toNat

/-- Whether an indicator stands where a plain scalar must not have it: at its start, or as a colon
or a hash sign next to a blank. `before` is the character before the rest of the text. -/
def hasIndicator : Option Char → List Char → Bool
  | _, [] => false
  | before, c :: rest =>
    let ends := endsWord rest.head?
    (match before with
      | none => ['#', ',', '[', ']', '\x7b', '\x7d', '&', '*', '!', '|', '>', '\'', '"', '%', '@',
          '\x60'].contains c || (['?', ':', '-'].contains c && ends)
      | some b => (c = ':' && ends) || (c = '#' && endsWord (some b))) ||
      hasIndicator (some c) rest

/-- Whether one character of the first kind stands before one of the second. -/
def hasPair (first second : Char → Bool) : List Char → Bool
  | a :: b :: rest => (first a && second b) || hasPair first second (b :: rest)
  | _ => false

/-- Whether the text starts or ends with a character of a kind. -/
def isFramed (p : Char → Bool) (s : List Char) : Bool := s.head?.any p || s.getLast?.any p

/-- Whether some character is never written as it is, or spaces stand before a line break. -/
def needsEscapes (s : List Char) : Bool :=
  s.any (fun c => !isPrintable c) || hasPair (· = ' ') isBreak s

/-- Whether a plain scalar can hold the text. -/
def fitsPlain (s : List Char) : Bool :=
  !needsEscapes s && !s.any isBreak && !isFramed (· = ' ') s && !hasIndicator none s &&
    !([['-', '-', '-'], ['.', '.', '.']].contains (s.take 3))

/-- Whether single quotes can hold the text. -/
def fitsSingle (s : List Char) : Bool := !needsEscapes s && !hasPair isBreak (· = ' ') s

/-- Whether a literal block can hold the text. -/
def fitsBlock (s : List Char) : Bool := !needsEscapes s && s.getLast? ≠ some ' '

/-- The style in which a string is written. -/
def styleOf (s : String) : Style :=
  let cs := s.toList
  if cs.contains '\n' then (if fitsBlock cs then .literal else .double)
  else
    let plain := match Plain.of s with
      | .text => !isZeroPadded cs
      | _ => false
    if plain && fitsPlain cs then .plain
    else if fitsSingle cs then .single
    else .double

/-! ## Scalars -/

/-- Spaces up to a column. -/
def spaces (n : Nat) : List Char := List.replicate n ' '

/-- Hexadecimal digits of a number, as many as are asked for. -/
def hexDigits (width n : Nat) : List Char :=
  let digits := (Nat.toDigits 16 n).map Char.toUpper
  List.replicate (width - digits.length) '0' ++ digits

/-- A character between double quotes. -/
def escaped (c : Char) : List Char :=
  if isPrintable c && !isBreak c && c ≠ '"' && c ≠ '\\' then [c]
  else '\\' :: match c with
    | '\x00' => ['0']
    | '\x07' => ['a']
    | '\x08' => ['b']
    | '\t' => ['t']
    | '\n' => ['n']
    | '\x0b' => ['v']
    | '\x0c' => ['f']
    | '\r' => ['r']
    | '\x1b' => ['e']
    | '"' => ['"']
    | '\\' => ['\\']
    | '\u0085' => ['N']
    | '\u2028' => ['L']
    | '\u2029' => ['P']
    | _ =>
      if c.toNat ≤ 0xFF then 'x' :: hexDigits 2 c.toNat
      else if c.toNat ≤ 0xFFFF then 'u' :: hexDigits 4 c.toNat
      else 'U' :: hexDigits 8 c.toNat

/-- A text whose lines are indented; `fresh` says whether the text before broke a line. -/
def indented (n : Nat) (one : Char → List Char) : Bool → List Char → List Char
  | _, [] => []
  | fresh, c :: rest =>
    if isBreak c then c :: indented n one true rest
    else (if fresh then spaces n else []) ++ one c ++ indented n one false rest

/-- A text between single quotes. A quote is written twice. Line breaks, which are those of Unicode
here, are followed by indentation. -/
def singleQuoted (n : Nat) (s : List Char) : List Char :=
  let ends := if s.getLast?.any isBreak then spaces n else []
  '\'' :: indented n (fun c => if c = '\'' then ['\'', '\''] else [c]) false s ++ ends ++ ['\'']

/-- A literal block. Where it starts with a space or an empty line, the indicator tells how far it
is indented, and it always tells what becomes of the breaks at its end. -/
def literalBlock (n : Nat) (s : List Char) : List Char :=
  let hint := if s.head?.any fun c => c = ' ' || isBreak c then ['2'] else []
  let chomp := match s.reverse with
    | [] => ['-']
    | [c] => if isBreak c then ['+'] else ['-']
    | c :: d :: _ => if !isBreak c then ['-'] else if isBreak d then ['+'] else []
  '|' :: hint ++ chomp ++ '\n' :: indented n (fun c => [c]) true s ++
    (if s.getLast?.any isBreak then [] else ['\n'])

/-- A string with the end of its line. Lines of it, but the first, are indented to column `n`. -/
def stringText (n : Nat) (s : String) : List Char :=
  let cs := s.toList
  match styleOf s with
  | .plain => cs ++ ['\n']
  | .single => singleQuoted n cs ++ ['\n']
  | .literal | .folded => literalBlock n cs
  | .double => '"' :: cs.flatMap escaped ++ ['"', '\n']

/-- Whether a string is short enough for a key before a colon, and of a single line. -/
def isSimpleKey (s : String) : Bool := !s.toList.any isBreak && s.utf8ByteSize ≤ 128

/-- A string as a simple key. -/
def keyText (s : String) : List Char := (stringText 0 s).dropLast

/-! ## Values -/

/-- Texts one below the other in column `n`, the first of which starts where the line is. -/
def stacked (n : Nat) : List (List Char) → List Char
  | [] => []
  | t :: ts => t ++ ts.flatMap (spaces n ++ ·)

mutual

/-- The items of a sequence in column `n`, each with its mark. -/
def itemTexts (n : Nat) : List Value → List (List Char)
  | [] => []
  | v :: vs => ('-' :: afterMark n v) :: itemTexts n vs

/-- The entries of a mapping in column `n`. A key that is not simple has a mark of its own. -/
def entryTexts (n : Nat) : List (String × Value) → List (List Char)
  | [] => []
  | (k, v) :: es =>
    let entry :=
      if isSimpleKey k then keyText k ++ ':' :: afterKey n v
      else '?' :: ' ' :: stringText (n + 2) k ++ spaces n ++ ':' :: afterMark n v
    entry :: entryTexts n es

/-- A value after a mark in column `n`, with the end of its line. -/
def afterMark (n : Nat) : Value → List Char
  | .array (v :: vs) => ' ' :: stacked (n + 2) (itemTexts (n + 2) (v :: vs))
  | .object (e :: es) => ' ' :: stacked (n + 2) (entryTexts (n + 2) (e :: es))
  | .array [] => " []\n".toList
  | .object [] => " \x7b\x7d\n".toList
  | .null => " null\n".toList
  | .bool b => (if b then " true\n" else " false\n").toList
  | .number x => ' ' :: (x.text .yaml).toList ++ ['\n']
  | .string s => ' ' :: stringText (n + 2) s

/-- A value after a key in column `n`, with the end of its line. -/
def afterKey (n : Nat) : Value → List Char
  | .array (v :: vs) => '\n' :: (itemTexts n (v :: vs)).flatMap (spaces n ++ ·)
  | .object (e :: es) => '\n' :: (entryTexts (n + 2) (e :: es)).flatMap (spaces (n + 2) ++ ·)
  | .array [] => " []\n".toList
  | .object [] => " \x7b\x7d\n".toList
  | .null => " null\n".toList
  | .bool b => (if b then " true\n" else " false\n").toList
  | .number x => ' ' :: (x.text .yaml).toList ++ ['\n']
  | .string s => ' ' :: stringText (n + 2) s

end

/-- The text of a value that is an object. -/
def text : Value → String
  | .object (e :: es) => String.ofList (stacked 0 (entryTexts 0 (e :: es)))
  | v => String.ofList ((afterMark 0 v).drop 1)

end Registrar.Yaml
