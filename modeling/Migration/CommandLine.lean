import Migration.Report

namespace Migration

/-! The command line.

A command has options of its own and options for diagnostics, which may also stand in front of the
command; what stands behind the command counts if both are given.  Every option can be given once,
except for excludes and for the one that asks for more diagnostics.
-/

inductive Command where
  | run
  | scan
  | mapping
deriving DecidableEq, Repr

def Command.name : Command → String
  | run => "run"
  | scan => "scan"
  | mapping => "mapping"

def Command.description : Command → String
  | run => "Rewrite sources, build files and config files under a tree"
  | scan => "Classify the tree and report version placeholders without rewriting"
  | mapping => "Load the mapping tables and report what they contain"

def Command.ofName? (name : Text) : Option Command :=
  [Command.run, .scan, .mapping].find? (·.name.toList = name)

/-- Diagnostics options at one level. -/
structure DiagnosticOptions where
  verbose : Nat := 0
  quiet : Bool := false

structure CommandOptions where
  root : Option Text := none
  symbols : Option Text := none
  artifacts : Option Text := none
  config : Option Text := none
  excludes : List Text := []
  write : Bool := false
  ambiguous : Bool := false

structure CommandLine where
  command : Command
  diagnostics : DiagnosticOptions
  options : CommandOptions

/-- Why a command line asks for no command to be run. -/
inductive Usage where
  | invalid
  | help (command : Option Command)
  | version
deriving DecidableEq, Repr

namespace CommandLine

def programVersion : String := "nsmigrate 0.4.2"

def helpOverview : String :=
  "Rewrite Android support-library references to their AndroidX equivalents\n\n" ++
  "Usage: nsmigrate [OPTIONS] <COMMAND>\n\n" ++
  "Commands:\n" ++
  s!"  run      {Command.run.description}\n" ++
  s!"  scan     {Command.scan.description}\n" ++
  s!"  mapping  {Command.mapping.description}\n" ++
  "  help     Print this message or the help of the given subcommand(s)\n\n" ++
  "Options:\n" ++
  "  -v, --verbose...  Increase diagnostic output on stderr " ++
  "(-v info, -vv debug, -vvv every substitution)\n" ++
  "  -q, --quiet       Only report errors\n" ++
  "  -h, --help        Print help\n" ++
  "  -V, --version     Print version\n"

/-- The line on the option that only one command has. -/
def ownOption : Command → String
  | .run => "      --write            Apply changes to disk (default is dry-run)\n"
  | .scan => ""
  | .mapping =>
      "      --ambiguous        Only list wildcard packages that map to more than one destination\n"

def helpOn (command : Command) : String :=
  s!"{command.description}\n\nUsage: nsmigrate {command.name} [OPTIONS]\n\n" ++
  "Options:\n" ++
  "      --root <ROOT>      Root of the tree to migrate [default: .]\n" ++
  "  -v, --verbose...       Increase diagnostic output on stderr " ++
  "(-v info, -vv debug, -vvv every substitution)\n" ++
  "  -q, --quiet            Only report errors\n" ++
  "      --symbols <SRC>    Symbol table: URL, file:// URL or local CSV path\n" ++
  "      --artifacts <SRC>  Artifact table: URL, file:// URL or local CSV path\n" ++
  "      --config <PATH>    Config file (default: <root>/nsmigrate.json when present)\n" ++
  "      --exclude <REGEX>  Skip directories whose path matches this regex (repeatable)\n" ++
  ownOption command ++
  "  -h, --help             Print help\n"

def helpText : Option Command → String
  | none => helpOverview
  | some command => helpOn command

/-- An option of the given name that may be given once. -/
def once (present : Option Text) (value : Text) : Except Usage (Option Text) :=
  if present.isSome then .error .invalid else .ok (some value)

def onceSet (present : Bool) : Except Usage Bool :=
  if present then .error .invalid else .ok true

def quietly (options : DiagnosticOptions) : Except Usage DiagnosticOptions := do
  return { options with quiet := ← onceSet options.quiet }

def louder (options : DiagnosticOptions) : DiagnosticOptions :=
  { options with verbose := options.verbose + 1 }

/-- Asking for more and for no diagnostics at one level is a contradiction. -/
def consistent (options : DiagnosticOptions) : Bool :=
  !(options.quiet && 0 < options.verbose)

/-- A cluster of one-letter options, in order, behind `command` or in front of any. -/
def shortOptions (command : Option Command) (options : DiagnosticOptions) :
    Text → Except Usage DiagnosticOptions
  | [] => .ok options
  | 'v' :: rest => shortOptions command (louder options) rest
  | 'q' :: rest => do shortOptions command (← quietly options) rest
  | 'h' :: _ => .error (.help command)
  | 'V' :: _ => .error (if command.isNone then .version else .invalid)
  | _ => .error .invalid

/-- Stores the value of an option that has one.  Paths must not be empty. -/
def setValue (options : CommandOptions) (name value : Text) : Except Usage CommandOptions := do
  match name.str with
  | "root" =>
      if value = [] then .error .invalid
      return { options with root := ← once options.root value }
  | "symbols" => return { options with symbols := ← once options.symbols value }
  | "artifacts" => return { options with artifacts := ← once options.artifacts value }
  | "config" =>
      if value = [] then .error .invalid
      return { options with config := ← once options.config value }
  | "exclude" => return { options with excludes := options.excludes ++ [value] }
  | _ => .error .invalid

def takesValue (name : Text) : Bool :=
  ["root", "symbols", "artifacts", "config", "exclude"].contains name.str

/-- Whether an argument can be the value of the option in front of it. -/
def canBeValue : Text → Bool
  | '-' :: _ :: _ => false
  | _ => true

/-- The arguments behind a command. -/
def commandArguments (command : Command) :
    DiagnosticOptions → CommandOptions → List Text → Except Usage (DiagnosticOptions × CommandOptions)
  | diagnostics, options, [] => .ok (diagnostics, options)
  | diagnostics, options, argument :: rest =>
      match argument with
      | '-' :: '-' :: name =>
          match name with
          | [] => if rest.isEmpty then .ok (diagnostics, options) else .error .invalid
          | _ =>
              if name.contains '=' then do
                let key := name.takeWhile (· ≠ '=')
                let options ← setValue options key ((name.dropWhile (· ≠ '=')).drop 1)
                commandArguments command diagnostics options rest
              else if takesValue name then
                match rest with
                | [] => .error .invalid
                | value :: rest =>
                    if canBeValue value then do
                      commandArguments command diagnostics (← setValue options name value) rest
                    else .error .invalid
              else if name = "help".toList then .error (.help command)
              else if name = "verbose".toList then
                commandArguments command (louder diagnostics) options rest
              else if name = "quiet".toList then do
                commandArguments command (← quietly diagnostics) options rest
              else if name = "write".toList && command = .run then do
                commandArguments command diagnostics
                  { options with write := ← onceSet options.write } rest
              else if name = "ambiguous".toList && command = .mapping then do
                commandArguments command diagnostics
                  { options with ambiguous := ← onceSet options.ambiguous } rest
              else .error .invalid
      | '-' :: c :: letters => do
          commandArguments command (← shortOptions command diagnostics (c :: letters)) options rest
      | _ => .error .invalid

/-- The options that count, of those in front of the command and those behind it. -/
def combine (outer inner : DiagnosticOptions) : DiagnosticOptions where
  verbose := if 0 < inner.verbose then inner.verbose else outer.verbose
  quiet := outer.quiet || inner.quiet

/-- What asking for help about the named command leads to. -/
def helpWanted : List Text → Usage
  | [] => .help none
  | [name] =>
      match Command.ofName? name with
      | some command => .help (some command)
      | none => if name = "help".toList then .help none else .invalid
  | _ => .invalid

/-- The arguments in front of the command, and the command. -/
def arguments (outer : DiagnosticOptions) : List Text → Except Usage CommandLine
  | [] => .error .invalid
  | argument :: rest =>
      match argument with
      | '-' :: '-' :: name =>
          if name = "help".toList then .error (.help none)
          else if name = "version".toList then .error .version
          else if name = "verbose".toList then arguments (louder outer) rest
          else if name = "quiet".toList then do arguments (← quietly outer) rest
          else .error .invalid
      | '-' :: c :: letters => do arguments (← shortOptions none outer (c :: letters)) rest
      | name =>
          match Command.ofName? name with
          | some command => do
              let (inner, options) ← commandArguments command {} {} rest
              if consistent outer && consistent inner then
                return { command, diagnostics := combine outer inner, options }
              else .error .invalid
          | none => .error (if name = "help".toList then helpWanted rest else .invalid)

def parse (given : List Text) : Except Usage CommandLine :=
  arguments {} given

def verbosity (line : CommandLine) : Verbosity :=
  if line.diagnostics.quiet then .quiet else .ofCount line.diagnostics.verbose

def runOptions (line : CommandLine) (home : Option Text) : RunOptions where
  root := Path.expandHome home (line.options.root.getD ['.'])
  symbols := line.options.symbols
  artifacts := line.options.artifacts
  config := line.options.config
  excludes := line.options.excludes
  mode := if line.options.write then .apply else .preview

/-- The members of the answer to a command. -/
def answer (line : CommandLine) (home : Option Text) : Action (List (String × Json)) := do
  let options := line.runOptions home
  match line.command with
  | .run =>
      let report ← Run.migrate options
      return ("command", .ofString "migrate.run") ::
        ("applied", .bool (line.options.write && 0 < report.files.length)) :: report.members
  | .scan =>
      let report ← Run.scan options
      return ("command", .ofString "migrate.scan") :: report.members
  | .mapping =>
      let report ← Run.describe options
      let shown := if line.options.ambiguous then
          report.projections.filter (!·.isUnique)
        else report.projections
      return ("command", .ofString "migrate.mapping") ::
        MappingReport.members { report with projections := shown }

/-- What a command line leads to. -/
structure Response where
  exitStatus : Nat
  output : String
  diagnostics : String
  /-- What the command failed for. -/
  failure : Option Failure := none
  disk : Disk

def usageText : String :=
  "error: invalid usage\n\nFor more information, try '--help'.\n"

def respond (given : List Text) (disk : Disk) : Response :=
  match parse given with
  | .error .invalid => { exitStatus := 2, output := "", diagnostics := usageText, disk }
  | .error (.help command) =>
      { exitStatus := 0, output := helpText command, diagnostics := "", disk }
  | .error .version =>
      { exitStatus := 0, output := programVersion ++ "\n", diagnostics := "", disk }
  | .ok line =>
      let (outcome, disk, entries) := (line.answer disk.home).run line.verbosity disk
      let diagnostics := String.join (entries.map fun entry => entry.line ++ "\n")
      match outcome with
      | .ok members =>
          { exitStatus := 0
            output := (Json.success members).pretty.str ++ "\n"
            diagnostics
            disk }
      | .error failure =>
          { exitStatus := failure.exitStatus
            output := failure.toJson.pretty.str ++ "\n"
            diagnostics
            failure := some failure
            disk }

end CommandLine

end Migration
