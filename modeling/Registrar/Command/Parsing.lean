import Registrar.Command.Option

/-!
# Reading a command line

Arguments are read one after the other by `Parsing.step`, and `Request.parse?` says what they ask
for. The first argument that cannot be understood ends the reading, and so does the first that asks
for help or for the version.
-/

namespace Registrar

/-- Options with their values, which are empty for options that take none. -/
abbrev Given := List (Opt × String)

/-- What is read of a command line. -/
structure Parsing where
  /-- The options before the verb. -/
  outer : Given := []
  verb : Option Verb := none
  /-- The options after the verb, or before it as long as there is none. -/
  given : Given := []
  files : List String := []
  /-- The option whose value is the next argument. -/
  awaiting : Option Opt := none
  /-- Whether options are over. -/
  literal : Bool := false
  /-- What help was asked for as a command. -/
  topic : Option Topic := none

/-- Why reading ends before the arguments do. -/
inductive Stop
  /-- The arguments make no command. -/
  | usage
  | help (topic : Topic)
  | version
  deriving DecidableEq, Repr

namespace Parsing

/-- Takes an option with its value, once. -/
def set (p : Parsing) (o : Opt) (value : String) : Except Stop Parsing :=
  match o with
  | .help => .error (.help (p.verb.elim .program .verb))
  | .version => .error .version
  | _ =>
    if (p.given.lookup o).isSome then .error .usage
    else .ok { p with given := (o, value) :: p.given, awaiting := none }

/-- Takes an argument that is no option: the verb, then files. -/
def word (p : Parsing) (s : String) : Except Stop Parsing :=
  match p.verb with
  | some _ => .ok { p with files := p.files ++ [s] }
  | none =>
    if p.literal then .error .usage
    else if s = "help" then .ok { p with topic := some .program }
    else match Verb.ofName? s with
      | some v => .ok { p with verb := some v, outer := p.given, given := [] }
      | none => .error .usage

/-- Takes an option in its long spelling, which a value may follow after an equals sign. -/
def long (p : Parsing) (s : List Char) : Except Stop Parsing :=
  let name := String.ofList (s.takeWhile (· ≠ '='))
  match (optionsOf p.verb).find? (·.long = name), s.dropWhile (· ≠ '=') with
  | none, _ => .error .usage
  | some o, [] => if o.takesValue then .ok { p with awaiting := some o } else p.set o ""
  | some o, _ :: value => if o.takesValue then p.set o (String.ofList value) else .error .usage

/-- Takes options in their short spelling. The rest after an option that takes a value is its value;
an equals sign may set it off. -/
def short (p : Parsing) : List Char → Except Stop Parsing
  | [] => .ok p
  | c :: cs =>
    match (optionsOf p.verb).find? (·.short? = some c) with
    | none => .error .usage
    | some o =>
      if o.takesValue then
        match cs with
        | [] => .ok { p with awaiting := some o }
        | '=' :: value => p.set o (String.ofList value)
        | value => p.set o (String.ofList value)
      else do (← p.set o "").short cs

/-- Takes a topic of help, of which there is at most one. -/
def subject (p : Parsing) (topic : Topic) (s : String) : Except Stop Parsing :=
  match topic, Verb.ofName? s with
  | .program, some v => .ok { p with topic := some (.verb v) }
  | .program, none => if s = "help" then .ok { p with topic := some .help } else .error .usage
  | _, _ => .error .usage

/-- Takes an argument. One that begins with a dash is an option, unless it is a single dash or
follows two of them. -/
def step (p : Parsing) (s : String) : Except Stop Parsing :=
  match p.topic with
  | some topic => p.subject topic s
  | none =>
    if p.literal then p.word s
    else match p.awaiting, s.toList with
      | some _, '-' :: _ :: _ => .error .usage
      | some o, _ => p.set o s
      | none, ['-', '-'] => .ok { p with literal := true }
      | none, '-' :: '-' :: cs => p.long cs
      | none, '-' :: c :: cs => p.short (c :: cs)
      | none, _ => p.word s

/-- The value of an option, or what it is where it is not given. -/
def value? (p : Parsing) (o : Opt) : Option String := (p.given.lookup o).or o.default?

/-- The task of a verb. -/
def task? (p : Parsing) : Verb → Option Task
  | .validate => some (.validate p.files)
  | .paths => some (.paths p.files (p.given.lookup .json).isSome)
  | .check => some (.check p.files)
  | .lookup => do
    return .lookup p.files (← p.value? .transport) (← p.value? .method) (← p.value? .path)

/-- The command that the arguments make. -/
def command? (p : Parsing) : Option Command := do
  if p.awaiting.isSome || p.files.isEmpty then none
  return {
    task := ← p.task? (← p.verb)
    config := (p.given.lookup .config).or (p.outer.lookup .config)
    replaceImplicit := ((p.given ++ p.outer).lookup .replaceImplicit).isSome }

end Parsing

/-- What the arguments ask for, or nothing if they make no command. -/
def Request.parse? (args : List String) : Option Request :=
  match args.foldlM Parsing.step {} with
  | .error .usage => none
  | .error (.help topic) => some (.help topic)
  | .error .version => some .version
  | .ok p =>
    match p.topic with
    | some topic => some (.help topic)
    | none => p.command?.map .run

end Registrar
