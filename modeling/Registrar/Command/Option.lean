import Registrar.Command

/-!
# Options

The options of the command line: how they are spelled, and which of them go with which verb.
-/

namespace Registrar

/-- What an option sets. -/
inductive Opt
  | config | replaceImplicit | json | transport | method | path | help | version
  deriving DecidableEq, Repr

namespace Opt

/-- The long spelling, without its dashes. -/
def long : Opt → String
  | config => "config"
  | replaceImplicit => "replace-implicit"
  | json => "json"
  | transport => "type"
  | method => "method"
  | path => "path"
  | help => "help"
  | version => "version"

/-- The letter of the short spelling. -/
def short? : Opt → Option Char
  | transport => some 't'
  | method => some 'm'
  | path => some 'p'
  | help => some 'h'
  | version => some 'V'
  | config | replaceImplicit | json => none

/-- What the value is called, for options that take one. -/
def valueName? : Opt → Option String
  | config => some "FILE"
  | transport => some "TYPE"
  | method => some "METHOD"
  | path => some "PATH"
  | replaceImplicit | json | help | version => none

/-- Whether the option takes a value. -/
def takesValue (o : Opt) : Bool := o.valueName?.isSome

/-- The value where the option is not given. -/
def default? : Opt → Option String
  | transport => some "http"
  | method => some "GET"
  | _ => none

end Opt

/-- The options that go with a verb, or before it, in the order in which help lists them. -/
def optionsOf : Option Verb → List Opt
  | none => [.config, .replaceImplicit, .help, .version]
  | some .validate | some .check => [.config, .replaceImplicit, .help]
  | some .paths => [.config, .json, .replaceImplicit, .help]
  | some .lookup => [.config, .transport, .method, .replaceImplicit, .path, .help]

end Registrar
