import Registrar.Yaml.Scan

/-!
# Nodes of a YAML document

A document is a tree of scalars, sequences and mappings. An alias stands for the node that its
anchor is put on; anchors are numbered. `Node.ofTokens?` reads the single document of a text.
-/

namespace Registrar.Yaml

/-- A node. -/
inductive Node
  | scalar (tag : Option String) (style : Style) (text : String)
  | sequence (tag : Option String) (items : List Node)
  | mapping (tag : Option String) (entries : List (Node × Node))
  /-- The node with a numbered anchor on it. -/
  | anchored (id : Nat) (node : Node)
  | aliasOf (id : Nat)

namespace Node

/-- The node where nothing is written. -/
def nothing : Node := scalar none .plain ""

/-! ## Anchors -/

mutual

/-- The nodes with anchors in a node, by number, each before those inside it. -/
def anchors : Node → List (Nat × Node)
  | scalar .. | aliasOf _ => []
  | sequence _ items => anchorsOfItems items
  | mapping _ entries => anchorsOfEntries entries
  | anchored id n => (id, n) :: n.anchors

/-- The nodes with anchors in the items of a sequence. -/
def anchorsOfItems : List Node → List (Nat × Node)
  | [] => []
  | n :: rest => n.anchors ++ anchorsOfItems rest

/-- The nodes with anchors in the entries of a mapping. -/
def anchorsOfEntries : List (Node × Node) → List (Nat × Node)
  | [] => []
  | (k, v) :: rest => k.anchors ++ v.anchors ++ anchorsOfEntries rest

end

mutual

/-- The size of a node: a scalar or an alias counts once, a collection twice. -/
def size : Node → Nat
  | scalar .. | aliasOf _ => 1
  | sequence _ items => 2 + sizeOfItems items
  | mapping _ entries => 2 + sizeOfEntries entries
  | anchored _ n => n.size

/-- The size of the items of a sequence. -/
def sizeOfItems : List Node → Nat
  | [] => 0
  | n :: rest => n.size + sizeOfItems rest

/-- The size of the entries of a mapping. -/
def sizeOfEntries : List (Node × Node) → Nat
  | [] => 0
  | (k, v) :: rest => k.size + v.size + sizeOfEntries rest

end

/-! ## Reading nodes -/

/-- The state of reading nodes: the tokens left, the expansions of handles, and the anchors named so
far with their numbers. -/
structure Source where
  tokens : List Token
  handles : List (String × String) := []
  names : List (String × Nat) := []

/-- Reads an `α`. -/
abbrev Parser (α : Type) := StateT Source Option α

/-- The next token. -/
def peek : Parser (Option Token) := fun s => some (s.tokens.head?, s)

/-- Drops the next token. -/
def advance : Parser Unit := fun s => some ((), { s with tokens := s.tokens.drop 1 })

/-- Refuses the text. -/
def refuse {α : Type} : Parser α := fun _ => none

/-- Drops the next token if it is the given one, and says whether it was. -/
def accept (t : Token) : Parser Bool := do
  if (← peek) = some t then
    advance
    return true
  else return false

/-- Names the node that follows. Its number is that of names before it. -/
def name (n : String) : Parser Nat := fun s =>
  let id := s.names.length
  some (id, { s with names := (n, id) :: s.names.filter (·.1 ≠ n) })

/-- The tag that a handle and a suffix make up. -/
def expand (handle suffix : String) : Parser String := fun s =>
  if handle = "" then some (suffix, s)
  else (s.handles.lookup handle).map fun e => (e ++ suffix, s)

/-- Reads the anchor of a node, if it has one. -/
def anchor : Parser (Option Nat) := do
  match ← peek with
  | some (.anchor n) =>
    advance
    some <$> name n
  | _ => return none

/-- Reads the tag of a node, if it has one. -/
def tag : Parser (Option String) := do
  match ← peek with
  | some (.tag handle suffix) =>
    advance
    some <$> expand handle suffix
  | _ => return none

/-- Reads the anchor and the tag of a node, in either order. -/
def properties : Parser (Option Nat × Option String) := do
  match ← peek with
  | some (.anchor _) =>
    let a ← anchor
    let t ← tag
    return (a, t)
  | _ =>
    let t ← tag
    let a ← anchor
    return (a, t)

/-- Drops the comma before an item that is not the first. -/
def separator (first : Bool) : Parser Unit := do
  if first then return ()
  else if ← accept .flowEntry then return ()
  else refuse

/-- Reads with `read`, unless one of the tokens comes next, before which nothing is written. -/
def unlessAt (tokens : List Token) (read : Parser Node) : Parser Node := do
  if (← peek).any (tokens.contains ·) then return nothing else read

/-- Reads a value after its mark with `read`; without the mark nothing is written. -/
def valueOr (tokens : List Token) (read : Parser Node) : Parser Node := do
  if ← accept .value then unlessAt tokens read else return nothing

mutual

/-- Reads a node. A number bounds the nesting and the lengths of collections, here and in the
readers of collections. Blocks stand where `block` allows for them, and a sequence without
indentation of its own where `flush` does. -/
def parse : Nat → (block flush : Bool) → Parser Node
  | 0, _, _ => refuse
  | n + 1, block, flush => do
    match ← peek with
    | some (.aliasOf name) =>
      advance
      match (← get).names.lookup name with
      | some id => return .aliasOf id
      | none => refuse
    | _ =>
      let (a, t) ← properties
      let node : Node ← do
        match ← peek with
        | some (.scalar style text) =>
          advance
          pure (.scalar (t.filter (· ≠ "!")) style text)
        | some .flowSequence =>
          advance
          .sequence t <$> flowItems n true
        | some .flowMapping =>
          advance
          .mapping t <$> flowEntries n true
        | next =>
          if next = some .blockEntry && flush then .sequence t <$> flushItems n
          else if next = some .blockSequence && block then do
            advance
            .sequence t <$> blockItems n
          else if next = some .blockMapping && block then do
            advance
            .mapping t <$> blockEntries n
          else if a.isSome || t.isSome then pure (.scalar t .plain "")
          else refuse
      return a.elim node (anchored · node)

/-- Reads the items of a block sequence, up to its end. -/
def blockItems : Nat → Parser (List Node)
  | 0 => refuse
  | n + 1 => do
    if ← accept .blockEnd then return []
    else if ← accept .blockEntry then
      let item ← unlessAt [.blockEntry, .blockEnd] (parse n true false)
      (item :: ·) <$> blockItems n
    else refuse

/-- Reads the items of a block sequence that ends where the mapping around it goes on. -/
def flushItems : Nat → Parser (List Node)
  | 0 => refuse
  | n + 1 => do
    if ← accept .blockEntry then
      let item ← unlessAt [.blockEntry, .key, .value, .blockEnd] (parse n true false)
      (item :: ·) <$> flushItems n
    else return []

/-- Reads the entries of a block mapping, up to its end. -/
def blockEntries : Nat → Parser (List (Node × Node))
  | 0 => refuse
  | n + 1 => do
    if ← accept .blockEnd then return []
    else if ← accept .key then
      let k ← unlessAt [.key, .value, .blockEnd] (parse n true true)
      let v ← valueOr [.key, .value, .blockEnd] (parse n true true)
      ((k, v) :: ·) <$> blockEntries n
    else refuse

/-- Reads the items of a flow sequence, up to its end. An item may be a mapping with one entry
and no brackets; where its key is missing, the token there is lost. -/
def flowItems : Nat → (first : Bool) → Parser (List Node)
  | 0, _ => refuse
  | n + 1, first => do
    if ← accept .flowSequenceEnd then return []
    separator first
    if ← accept .flowSequenceEnd then return []
    else if ← accept .key then
      let k ←
        if (← peek).any ([Token.value, .flowEntry, .flowSequenceEnd].contains ·) then do
          advance
          pure nothing
        else parse n false false
      let v ← valueOr [.flowEntry, .flowSequenceEnd] (parse n false false)
      (mapping none [(k, v)] :: ·) <$> flowItems n false
    else
      let item ← parse n false false
      (item :: ·) <$> flowItems n false

/-- Reads the entries of a flow mapping, up to its end. -/
def flowEntries : Nat → (first : Bool) → Parser (List (Node × Node))
  | 0, _ => refuse
  | n + 1, first => do
    if ← accept .flowMappingEnd then return []
    separator first
    if ← accept .flowMappingEnd then return []
    else if ← accept .key then
      let k ← unlessAt [.value, .flowEntry, .flowMappingEnd] (parse n false false)
      let v ← valueOr [.flowEntry, .flowMappingEnd] (parse n false false)
      ((k, v) :: ·) <$> flowEntries n false
    else
      let k ← parse n false false
      ((k, nothing) :: ·) <$> flowEntries n false

end

/-! ## Documents -/

/-- The handles of tags that every document knows. -/
def knownHandles : List (String × String) := [("!", "!"), ("!!", "tag:yaml.org,2002:")]

/-- Reads the directives before a document: at most one version, which is 1.1 or 1.2, and each
handle once. Says whether there are any. -/
def directives : Nat → (version : Bool) → (handles : List (String × String)) →
    Parser (Bool × List (String × String))
  | 0, _, _ => refuse
  | n + 1, version, handles => do
    match ← peek with
    | some (.version major minor) =>
      if version || major ≠ 1 || (minor ≠ 1 && minor ≠ 2) then refuse
      else
        advance
        directives n true handles
    | some (.handle handle expansion) =>
      if (handles.lookup handle).isSome then refuse
      else
        advance
        directives n version ((handle, expansion) :: handles)
    | _ => return (version || !handles.isEmpty, handles)

/-- Skips the marks that end a document. -/
def documentEnds : Nat → Parser Unit
  | 0 => refuse
  | n + 1 => do if ← accept .documentEnd then documentEnds n else return ()

/-- Reads the only document of a text. -/
def document (n : Nat) : Parser Node := do
  let (directed, handles) ← directives n false []
  modify fun s => { s with handles := handles ++ knownHandles }
  let started ← accept .documentStart
  let next ← peek
  let root ←
    if directed && !started then refuse
    else if started then
      match next with
      | none | some .documentStart | some .documentEnd | some (.version ..)
      | some (.handle ..) => pure nothing
      | _ => parse n true false
    else parse n true false
  documentEnds n
  if (← peek).isNone then return root else refuse

/-- The single document that tokens make up. -/
def ofTokens? (tokens : List Token) : Option Node :=
  ((document (2 * tokens.length + 2)).run { tokens := tokens }).map (·.1)

/-- The single document of a text. -/
def ofText? (text : String) : Option Node := (Token.scan? text).bind ofTokens?

end Node

end Registrar.Yaml
