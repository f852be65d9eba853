/-!
# Identifiers of 128 bits

A universally unique identifier is 32 hexadecimal digits, either on their own or in groups of 8, 4,
4, 4 and 12 with dashes between them. Only the grouped form may stand in braces or after
`urn:uuid:`.
-/

namespace Registrar.Uuid

/-- A hexadecimal digit in either case. -/
def isHex (c : Char) : Bool :=
  c.isDigit || ('a' ≤ c && c ≤ 'f') || ('A' ≤ c && c ≤ 'F')

/-- The lengths of the groups. -/
def groupLengths : List Nat := [8, 4, 4, 4, 12]

/-- Groups of hexadecimal digits of the right lengths, with dashes between them. -/
def isGrouped (s : List Char) : Bool :=
  s.all (fun c => isHex c || c == '-') && (s.splitOn '-').map (·.length) == groupLengths

/-- Thirty-two hexadecimal digits. -/
def isPlain (s : List Char) : Bool := s.length == 32 && s.all isHex

/-- What is left of a list after another one that it starts with. -/
def after? (start s : List Char) : Option (List Char) :=
  if start.isPrefixOf s then some (s.drop start.length) else none

/-- Whether the text writes an identifier. -/
def isUuid (text : String) : Bool :=
  let s := text.toList
  isPlain s || isGrouped s ||
    (s.head? == some '\x7b' && s.getLast? == some '\x7d' && isGrouped s.tail.dropLast) ||
    ((after? "urn:uuid:".toList s).map isGrouped).getD false

end Registrar.Uuid
