/-!
# Commands

What a command line can ask for: a `Command`, which is a task with a configuration of the registry,
or help, or the version.
-/

namespace Registrar

/-- The names of commands. -/
inductive Verb
  | validate | paths | check | lookup
  deriving DecidableEq, Repr

namespace Verb

/-- The verbs in order. -/
def all : List Verb := [validate, paths, check, lookup]

/-- The spelling of a verb. -/
def name : Verb → String
  | validate => "validate"
  | paths => "paths"
  | check => "check"
  | lookup => "lookup"

/-- The verb with a spelling. -/
def ofName? (s : String) : Option Verb := all.find? (·.name = s)

end Verb

/-- What to do with which files. -/
inductive Task
  | validate (files : List String)
  | paths (files : List String) (json : Bool)
  | check (files : List String)
  /-- Resolves a request. The transport is as given. -/
  | lookup (files : List String) (transport method path : String)
  deriving DecidableEq, Repr

/-- The files of a task. -/
def Task.files : Task → List String
  | validate files | paths files _ | check files | lookup files _ _ _ => files

/-- A task, and where the registry's configuration comes from. -/
structure Command where
  task : Task
  config : Option String
  /-- Whether explicit endpoints replace implicit routes, whatever the configuration says. -/
  replaceImplicit : Bool
  deriving DecidableEq, Repr

/-- What help is about. -/
inductive Topic
  | program
  | verb (v : Verb)
  | help
  deriving DecidableEq, Repr

/-- What a command line asks for. -/
inductive Request
  | run (c : Command)
  | help (topic : Topic)
  | version
  deriving DecidableEq, Repr

end Registrar
