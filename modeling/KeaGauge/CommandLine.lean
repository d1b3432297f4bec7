import KeaGauge.Cycle.Report
import KeaGauge.Poll.Launch
import KeaGauge.Settings.Source
/-!
# The command line

The command takes a settings file and runs passes, or a single one. Arguments
are read in their order: the first that is wrong, or that asks for help or
the version, decides. `CommandLine.plan` says what is to be done, and
`Finish` how the command exits.
-/

namespace KeaGauge.CommandLine

/-- What arguments ask for. -/
structure Options where
  config : Option String
  once : Bool
deriving DecidableEq, Repr

/-- What becomes of arguments. -/
inductive Parsed where
  | options (o : Options)
  | version
  | help
  /-- They are wrong. -/
  | refused
deriving DecidableEq, Repr

/-- The options that no argument has set. -/
def Options.none : Options := ⟨.none, false⟩

/-- Sets the settings file: only once, and not to an empty path. -/
def Options.setConfig? (o : Options) (path : String) : Option Options :=
  if o.config.isSome ∨ path = "" then .none else some { o with config := some path }

/-- Asks for a single pass, only once. -/
def Options.setOnce? (o : Options) : Option Options :=
  if o.once then .none else some { o with once := true }

/-- Whether an argument may be the value of the one before it. -/
def isValue (arg : String) : Bool := arg = "-" || !arg.startsWith "-"

/-- What one argument means. -/
inductive Word where
  /-- The settings file is the next argument. -/
  | configNext
  | config (path : String)
  | once
  | version
  | help
  /-- Nothing but values follows. -/
  | valuesFollow
  | unknown
deriving DecidableEq, Repr

/-- What an argument of one hyphen means, by the characters after it. -/
def Word.ofShort : List Char → Word
  | ['c'] => .configNext
  | 'c' :: '=' :: path => .config (String.ofList path)
  | 'c' :: path => .config (String.ofList path)
  | 'V' :: _ => .version
  | 'h' :: _ => .help
  | _ => .unknown

/-- What an argument means. -/
def Word.ofArgument (arg : String) : Word :=
  match arg.toList with
  | ['-', '-'] => .valuesFollow
  | '-' :: '-' :: name =>
    if name = "config".toList then .configNext
    else if name = "once".toList then .once
    else if name = "version".toList then .version
    else if name = "help".toList then .help
    else if "config=".toList.isPrefixOf name then .config (String.ofList (name.drop 7))
    else .unknown
  | '-' :: name => .ofShort name
  | _ => .unknown

/-- Reads arguments, given what those before have set. -/
def parseFrom (o : Options) : List String → Parsed
  | [] => .options o
  | arg :: rest =>
    match Word.ofArgument arg with
    | .configNext =>
      match rest with
      | path :: rest =>
        if isValue path then
          match o.setConfig? path with
          | some o => parseFrom o rest
          | none => .refused
        else .refused
      | [] => .refused
    | .config path =>
      match o.setConfig? path with
      | some o => parseFrom o rest
      | none => .refused
    | .once =>
      match o.setOnce? with
      | some o => parseFrom o rest
      | none => .refused
    | .version => .version
    | .help => .help
    | .valuesFollow => if rest.isEmpty then .options o else .refused
    | .unknown => .refused

/-- **Reads arguments.** -/
def parse (args : List String) : Parsed := parseFrom .none args

/-- The name of the command and its version. -/
def versionText : String := "keastat 0.1.0\n"

/-- The settings file that arguments ask for. -/
def configPath? (args : List String) : Option String :=
  match parse args with
  | .options o => o.config
  | _ => none

/-- What the command is for and how it is used. -/
def helpText : String :=
  "Collect Kea DHCP subnet statistics into carbon\n\n"
    ++ "Usage: keastat [OPTIONS]\n\n"
    ++ "Options:\n"
    ++ "  -c, --config <CONFIG>  Settings file (default: $KEASTAT_CONFIG, then <config dir>/keastat/config.toml)\n"
    ++ "      --once             Run a single pass and exit\n"
    ++ "  -h, --help             Print help\n"
    ++ "  -V, --version          Print version\n"

/-- How the command ends. -/
inductive Finish where
  | shown (text : String)
  | refused
  | unusable (error : Settings.Error)
  | failures (failed total : Nat)
  | crashed (panic : Panic)
  | success
deriving DecidableEq, Repr

namespace Finish

/-- The exit code. -/
def code : Finish → Nat
  | shown _ | success => 0
  | unusable _ | failures _ _ => 1
  | refused => 2
  | crashed _ => 101

/-- What goes to standard output. -/
def output : Finish → String
  | shown text => text
  | _ => ""

/-- A text whose lines after the first are indented. -/
def indented (width : Nat) (s : String) : String :=
  ("\n" ++ "".pushn ' ' width).intercalate (s.splitOn "\n")

/-- Causes, one below the other, with numbers where there are several. -/
def causesText (causes : List String) : String :=
  match causes with
  | [cause] => "    " ++ indented 4 cause ++ "\n"
  | causes => String.join (causes.mapIdx fun i cause => s!"    {i}: " ++ indented 7 cause ++ "\n")

/-- What goes to standard error. -/
def errorText : Finish → String
  | shown _ | success => ""
  | refused => "error: the arguments are wrong\n\n" ++ helpText
  | unusable error =>
    "Error: Failed to load settings\n\nCaused by:\n" ++ causesText error.causes
  | failures failed total => s!"Error: {failed} of {total} target(s) failed\n"
  | crashed panic => panic.message ++ "\n"

/-- How the command ends after a single pass. -/
def ofOutcomes (outcomes : List Outcome) : Finish :=
  let failed := Outcome.failed outcomes
  if failed = 0 then success else failures failed outcomes.length

/-- How the command ends after what comes of a launch. -/
def ofLaunch : Except Panic Finish → Finish
  | .ok finish => finish
  | .error panic => crashed panic

end Finish

/-- What is to be done: to end at once, or to make passes. -/
inductive Plan where
  | finish (f : Finish)
  | passes (settings : Settings) (once : Bool)
deriving DecidableEq, Repr

/-- **What is to be done** by arguments, the files, the path in the
environment and the default location. -/
def plan (files : Settings.Files) (environment default : Option String) (args : List String) :
    Plan :=
  match parse args with
  | .version => .finish (.shown versionText)
  | .help => .finish (.shown helpText)
  | .refused => .finish .refused
  | .options o =>
    match Settings.load files o.config environment default with
    | .error error => .finish (.unusable error)
    | .ok loaded => .passes loaded.settings o.once

end KeaGauge.CommandLine
