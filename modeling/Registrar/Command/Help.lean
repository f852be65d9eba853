import Registrar.Command.Option

/-!
# Help

The texts that the program prints about itself: what it does, how it is used, and tables of its
commands, arguments and options.
-/

namespace Registrar

/-! ## Descriptions -/

/-- The name of the program. -/
def programName : String := "modreg"

/-- The version of the program. -/
def programVersion : String := "1.0.0"

/-- What a command does. -/
def Verb.about : Verb → String
  | .validate => "Parse and validate declarations"
  | .paths => "Print the path claims each declaration derives"
  | .check => "Register every declaration into one registry and report conflicts as JSON"
  | .lookup => "Resolve a request path against the registered declarations"

/-- What a topic is about. -/
def Topic.about : Topic → String
  | .program => "Validate module declarations and check their path claims for conflicts"
  | .verb v => v.about
  | .help => "Print this message or the help of the given subcommand(s)"

/-- What an option does. -/
def Opt.about : Opt → String
  | .config => "Registry configuration (JSON)"
  | .replaceImplicit => "Explicit HTTP endpoints replace the implicit CRUD routes"
  | .json => "Print claims as JSON"
  | .transport => "Transport: http, cli, ws, webhook, grpc"
  | .method => "HTTP method"
  | .path => "Request path or CLI command"
  | .help => "Print help"
  | .version => "Print version"

/-! ## Tables -/

/-- Lines of text, each of which is ended. -/
def linesText (lines : List String) : String := String.join (lines.map (· ++ "\n"))

/-- Two columns, of which the left one is as wide as its widest cell. -/
def tableLines (rows : List (String × String)) : List String :=
  let width := (rows.map (·.1.length)).foldl max 0
  rows.map fun (left, right) =>
    "  " ++ left ++ "".pushn ' ' (width - left.length) ++ "  " ++ right

/-- How an option is written, after its short spelling or as much space. -/
def Opt.usage (o : Opt) : String :=
  let start := match o.short? with
    | some c => String.ofList ['-', c, ',', ' ']
    | none => "    "
  let value := match o.valueName? with
    | some name => " <" ++ name ++ ">"
    | none => ""
  start ++ "--" ++ o.long ++ value

/-- The row of an option. -/
def Opt.row (o : Opt) : String × String :=
  let note := match o.default? with
    | some value => " [default: " ++ value ++ "]"
    | none => ""
  (o.usage, o.about ++ note)

/-- The rows of the commands. -/
def commandRows : List (String × String) :=
  Verb.all.map (fun v => (v.name, v.about)) ++ [("help", Topic.help.about)]

/-- How a topic is used. -/
def Topic.usage : Topic → String
  | .program => "[OPTIONS] <COMMAND>"
  | .verb .lookup => "lookup [OPTIONS] --path <PATH> <FILE>..."
  | .verb v => v.name ++ " [OPTIONS] <FILE>..."
  | .help => "help [COMMAND]..."

/-- The titled tables of a topic. -/
def Topic.tables : Topic → List (String × List (String × String))
  | .program =>
    [("Commands", commandRows), ("Options", (optionsOf none).map Opt.row)]
  | .verb v =>
    [("Arguments", [("<FILE>...", "Module declaration files (.json, .yaml, .yml)")]),
      ("Options", (optionsOf (some v)).map Opt.row)]
  | .help => [("Arguments", [("[COMMAND]...", "Print help for the subcommand(s)")])]

/-- The text about a topic. -/
def Topic.text (t : Topic) : String :=
  linesText ([t.about, "", "Usage: " ++ programName ++ " " ++ t.usage] ++
    t.tables.flatMap fun (title, rows) => ["", title ++ ":"] ++ tableLines rows)

end Registrar
