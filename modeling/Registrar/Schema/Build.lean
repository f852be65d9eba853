import Registrar.Schema.Module

/-!
# Building declarations

Functions that put a declaration together step by step. A later step replaces what an earlier one of
the same kind gave, but for constraints, endpoints, assignments and inputs, which add up.
-/

namespace Registrar

/-! ## Fields -/

namespace Field

/-- A field of a type. -/
def ofType (t : FieldType) : Field := { type := t.tag }

/-- The field with one more constraint, after the others. -/
def withConstraint (f : Field) (c : Constraint) : Field :=
  { f with constraints := f.constraints ++ [c] }

end Field

/-! ## Actions -/

namespace ActionInput

/-- An input of a type. -/
def ofType (t : FieldType) : ActionInput := { type := some t.tag }

/-- An input that is written to a field. -/
def ofField (field : String) : ActionInput := { field := some field }

end ActionInput

namespace Action

/-- The action with a value that it assigns to a field. -/
def withSet (a : Action) (field : String) (v : Value) : Action :=
  { a with set := a.set.insert field v }

/-- The action with an input. -/
def withInput (a : Action) (name : String) (i : ActionInput) : Action :=
  { a with inputs := a.inputs.insert name i }

end Action

/-! ## Channels and modules -/

/-- The channel with one more endpoint, after the others. -/
def HttpChannel.withEndpoint (c : HttpChannel) (method path action : String) : HttpChannel :=
  { c with endpoints := c.endpoints ++ [⟨method, path, action⟩] }

namespace Module

/-- The module with a field. -/
def withField (m : Module) (name : String) (f : Field) : Module :=
  { m with schema := m.schema.insert name f }

/-- The module with an action. -/
def withAction (m : Module) (name : String) (a : Action) : Module :=
  { m with actions := m.actions.insert name a }

end Module

end Registrar
