import Registrar.Pattern.Bracket

/-!
# Syntax of patterns

A pattern is read from left to right into an expression (`Pattern.parse?`). While it is read, a
stack holds the groups that are open, with the flags to return to when they close. Flags set inside
a group hold to its end, over the branches that follow as well.
-/

namespace Registrar.Pattern

open Text

/-- A part of a pattern that is read: its expression, how deep it is nested, and whether it can be
repeated, which a setting of flags cannot. -/
structure Part where
  node : Node Leaf
  depth : Nat
  repeatable : Bool := true

/-- The branches of a group as far as they are read, and the parts of the last one, each with the
latest first. -/
structure Level where
  branches : List Part := []
  parts : List Part := []

/-- Parts combined by an operation, from the latest to the first. -/
def combine (op : Node Leaf → Node Leaf → Node Leaf) (parts : List Part) : Part :=
  match parts with
  | [] => ⟨.empty, 0, true⟩
  | last :: before =>
    ⟨before.foldl (fun n p => op p.node n) last.node,
      if before.isEmpty then last.depth else 1 + (parts.map (·.depth)).foldl max 0, true⟩

/-- The level with its last branch finished. -/
def Level.branch (l : Level) : Level := ⟨combine .seq l.parts :: l.branches, []⟩

/-- All branches of a level. -/
def Level.close (l : Level) : Part := combine .alt l.branch.branches

/-- The level with one more part. -/
def Level.push (l : Level) (p : Part) : Level := { l with parts := p :: l.parts }

/-- The level with the latest part repeated. -/
def Level.repeat? (l : Level) (least : Nat) (most : Option Nat) : Option Level :=
  match l.parts with
  | p :: before =>
    if p.repeatable then
      some { l with parts := ⟨.times p.node least most, 1 + p.depth, true⟩ :: before }
    else none
  | [] => none

/-- The state of reading: the flags in force, the level that is read, the names of groups so far and
the levels around, the innermost first, each with the flags to return to. -/
structure Reading where
  flags : Flags := {}
  level : Level := {}
  names : List String := []
  outer : List (Level × Flags) := []

/-- The reading with one more part. -/
def Reading.push (r : Reading) (p : Part) : Reading := { r with level := r.level.push p }

/-- The reading inside a group that opens. -/
def Reading.enter (r : Reading) (flags : Flags) : Reading :=
  { r with flags := flags, level := {}, outer := (r.level, r.flags) :: r.outer }

/-! ## Characters, escapes and classes -/

/-- An expression for a single leaf. -/
def Part.leaf (l : Leaf) : Part := ⟨.leaf l, 0, true⟩

/-- A character that stands for itself. -/
def Flags.char (f : Flags) (c : Char) : Part := .leaf (.chars (f.fold (.single c.toNat)))

/-- What a dot stands for. Without Unicode that would include bytes that are no characters. -/
def Flags.dot? (f : Flags) : Option Part :=
  let ends := if f.crlf then [(0x0A, 0x0A), (0x0D, 0x0D)] else [(0x0A, 0x0A)]
  if !f.unicode then none
  else some (.leaf (.chars (if f.dotAll then .all else (CodeSet.ofRanges ends).compl)))

/-- What an escape stands for. -/
def Flags.escape (f : Flags) (e : Escape) : Part :=
  match e with
  | .char c => f.char c
  | .set s => .leaf (.chars s)
  | .edge e => .leaf (.edge e)

/-! ## Repetitions -/

/-- Reads the question mark that makes a repetition reluctant, if there is one. -/
def skipReluctant : List Char → List Char
  | '?' :: cs => cs
  | cs => cs

/-- Reads digits, with what is skipped after each. -/
def readDecimalDigits (f : Flags) : Nat → List Char → List Char × List Char
  | 0, cs => ([], cs)
  | n + 1, cs =>
    match cs with
    | c :: rest =>
      if c.isDigit then
        let (digits, rest) := readDecimalDigits f n (f.skip rest)
        (c :: digits, rest)
      else ([], cs)
    | [] => ([], [])

/-- Reads a count between blanks. Says nothing for no digits, and fails beyond 32 bits. -/
def readCount (f : Flags) (cs : List Char) : Option (Option Nat × List Char) :=
  let cs := cs.dropWhile isBlank
  let (digits, rest) := readDecimalDigits f cs.length cs
  let value := decimalValue digits
  let rest := f.skip (rest.dropWhile isBlank)
  if digits.isEmpty then some (none, rest)
  else if value < 1 <<< 32 then some (some value, rest) else none

/-- Reads the bounds of a repetition, up to the closing brace. -/
def readBounds (f : Flags) (cs : List Char) : Option (Nat × Option Nat × List Char) := do
  let (least, rest) ← readCount f (f.skip cs)
  let least ← least
  match rest with
  | '\x7d' :: rest => return (least, some least, rest)
  | ',' :: rest =>
    match f.skip rest with
    | '\x7d' :: rest => return (least, none, rest)
    | rest =>
      match ← readCount f rest with
      | (some most, '\x7d' :: rest) =>
        if least ≤ most then return (least, some most, rest) else none
      | _ => none
  | _ => none

/-! ## Groups -/

/-- Whether the character may stand in the name of a group. -/
def isNameChar (first : Bool) (c : Char) : Bool :=
  let alphabetic := Property.alphabetic.holds c.toNat
  if first then c = '_' || alphabetic
  else c = '_' || c = '.' || c = '[' || c = ']' || alphabetic ||
    (Property.categories ["nd", "nl", "no"]).holds c.toNat

/-- Reads the name of a group, up to the closing bracket. -/
def readName (cs : List Char) : Option (String × List Char) :=
  let name := cs.takeWhile (· ≠ '>')
  match name, cs.drop name.length with
  | c :: more, '>' :: rest =>
    if isNameChar true c && more.all (isNameChar false) then some (String.ofList name, rest)
    else none
  | _, _ => none

/-- Opens a group with a name, which no other group has. -/
def Reading.enterNamed? (r : Reading) (cs : List Char) : Option (Reading × List Char) := do
  let (name, rest) ← readName cs
  if r.names.contains name then none
  else return ({ r with names := name :: r.names }.enter r.flags, rest)

/-- Reads what follows an opening parenthesis. Nothing looks ahead or behind. -/
def Reading.open? (r : Reading) (cs : List Char) : Option (Reading × List Char) :=
  match r.flags.skip cs with
  | '?' :: 'P' :: '<' :: cs => r.enterNamed? cs
  | '?' :: '=' :: _ | '?' :: '!' :: _ | '?' :: '<' :: '=' :: _ | '?' :: '<' :: '!' :: _ => none
  | '?' :: '<' :: cs => r.enterNamed? cs
  | '?' :: cs =>
    match readFlags r.flags cs with
    | some (flags, ':' :: rest) => some (r.enter flags, rest)
    | some (flags, ')' :: rest) =>
      if rest.length + 1 = cs.length then none
      else some ({ r with flags := flags }.push ⟨.empty, 0, false⟩, rest)
    | _ => none
  | cs => some (r.enter r.flags, cs)

/-- Closes the innermost group. -/
def Reading.close? (r : Reading) : Option Reading :=
  match r.outer with
  | [] => none
  | (level, flags) :: outer =>
    let inner := r.level.close
    some { r with
      flags := flags, outer := outer,
      level := level.push ⟨.group inner.node, 1 + inner.depth, true⟩ }

/-! ## Patterns -/

/-- How deep a pattern may be nested. -/
def depthLimit : Nat := 250

/-- Reads one construct. -/
def Reading.step? (r : Reading) (c : Char) (cs : List Char) : Option (Reading × List Char) :=
  let repeated := fun (least : Nat) (most : Option Nat) (rest : List Char) =>
    (r.level.repeat? least most).map fun l => ({ r with level := l }, skipReluctant rest)
  match c with
  | '(' => r.open? cs
  | ')' => r.close?.map (·, cs)
  | '|' => some ({ r with level := r.level.branch }, cs)
  | '[' => (readClass r.flags cs).map fun (n, rest) =>
      (r.push ⟨.leaf (.chars n.set), n.depth, true⟩, rest)
  | '?' => repeated 0 (some 1) cs
  | '*' => repeated 0 none cs
  | '+' => repeated 1 none cs
  | '\x7b' =>
    if r.level.parts.isEmpty then none
    else (readBounds r.flags cs).bind fun (least, most, rest) =>
      repeated least most (r.flags.skip rest)
  | '\\' => (readEscape r.flags cs).map fun (e, rest) => (r.push (r.flags.escape e), rest)
  | '.' => r.flags.dot?.map fun p => (r.push p, cs)
  | '^' =>
    some (r.push (.leaf (.edge (if r.flags.manyLines then .lineStart r.flags.crlf
      else .textStart))), cs)
  | '$' =>
    some (r.push (.leaf (.edge (if r.flags.manyLines then .lineEnd r.flags.crlf
      else .textEnd))), cs)
  | _ => some (r.push (r.flags.char c), cs)

/-- Reads the rest of a pattern. The number bounds the steps, each of which reads a character. -/
def Reading.run? : Nat → Reading → List Char → Option Part
  | 0, _, _ => none
  | n + 1, r, cs =>
    match r.flags.skip cs with
    | [] => if r.outer.isEmpty then some r.level.close else none
    | c :: cs => (r.step? c cs).bind fun (r, rest) => Reading.run? n r rest

/-- Reads a pattern, if it is well-formed. -/
def parse? (pattern : String) : Option (Node Leaf) :=
  match Reading.run? (pattern.length + 1) {} pattern.toList with
  | some p => if p.depth ≤ depthLimit then some p.node else none
  | none => none

end Registrar.Pattern
