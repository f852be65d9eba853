import Registrar.Pattern.Size
import Registrar.Pattern.Syntax

/-!
# Patterns

A pattern is a regular expression that a text satisfies when some part of it matches. Patterns look
neither ahead nor behind and refer back to no group, so that matching takes bounded time; one that
is ill-formed or too large does not compile.
-/

namespace Registrar

/-- A pattern that compiles. -/
structure Pattern where
  node : Pattern.Node Pattern.Leaf
  small : node.isSmall = true

namespace Pattern

/-- The pattern with a text, if it compiles. -/
def compile? (text : String) : Option Pattern :=
  match parse? text with
  | some node => if h : node.isSmall = true then some ⟨node, h⟩ else none
  | none => none

/-- Whether some part of the text matches. -/
def isMatch (p : Pattern) (text : String) : Bool := p.node.occursIn text.toList

end Pattern

end Registrar
