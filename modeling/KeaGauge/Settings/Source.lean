import KeaGauge.Settings.Decoding
import KeaGauge.Settings.Violation
import KeaGauge.Text.Utf8
import KeaGauge.Toml.Reader
/-!
# Where settings come from

Settings are a TOML document in a file. A path that was asked for, on the
command line or else in the environment, has to lead to a file; at the
default location there may be none, and then settings are as they are left.
Settings that violate a rule are never handed out.
-/

namespace KeaGauge.Settings

/-- Why a file could not be read. -/
inductive ReadFault where
  | notFound
  /-- Something on the way to the file is no directory. -/
  | notDirectory
  | isDirectory
  /-- The path, or a name in it, is longer than the system allows. -/
  | tooLong
  /-- Something else bars the way to the file. -/
  | barred (cause : String)
  /-- The content is no text. -/
  | notText
  | other (cause : String)
deriving DecidableEq, Repr

namespace ReadFault

/-- What is said of the fault. -/
def message : ReadFault → String
  | notFound => "No such file or directory (os error 2)"
  | notDirectory => "Not a directory (os error 20)"
  | isDirectory => "Is a directory (os error 21)"
  | tooLong => "File name too long (os error 36)"
  | notText => "stream did not contain valid UTF-8"
  | barred cause | other cause => cause

/-- Whether the path leads to nothing. -/
def isAbsence : ReadFault → Bool
  | notFound | notDirectory | tooLong | barred _ => true
  | _ => false

end ReadFault

/-- Why there are no settings. -/
inductive Error where
  | unreadable (path : String) (fault : ReadFault)
  /-- The content is not TOML (no fault), or does not hold settings. -/
  | undecodable (path : String) (fault : Option Fault)
  | invalid (violation : Violation)
deriving DecidableEq, Repr

namespace Error

/-- What is said of content that holds no settings. -/
def faultText (fault : Option Fault) : String :=
  match fault with
  | none => "not a TOML document"
  | some fault => fault.message?.getD "a value is of a wrong kind or out of range"

/-- What is said of the error. -/
def message : Error → String
  | unreadable path fault => "could not read " ++ path ++ ": " ++ fault.message
  | undecodable path fault => "invalid TOML in " ++ path ++ ": " ++ faultText fault
  | invalid violation => "invalid configuration: " ++ violation.message

/-- The error and what caused it. -/
def causes (e : Error) : List String :=
  match e with
  | unreadable _ fault => [e.message, fault.message]
  | undecodable _ fault => [e.message, faultText fault]
  | invalid _ => [e.message]

end Error

/-- The settings, if they violate no rule. -/
def validated (s : Settings) : Except Error Settings :=
  match s.violation? with
  | some violation => .error (.invalid violation)
  | none => .ok s

/-- **The settings of a TOML document** that is known by a path. -/
def ofToml (path content : String) : Except Error Settings :=
  match Toml.parse? content with
  | none => .error (.undecodable path none)
  | some entries =>
    match toml.decode (.table entries) with
    | .error fault => .error (.undecodable path (some fault))
    | .ok s => validated s

/-- How a document is known that is in no file. -/
def inlinePath : String := "<inline>"

/-- What a file system gives for a path: bytes, or the reason why not. -/
abbrev Files := String → Except ReadFault (List UInt8)

/-- The text of a file. -/
def readText (files : Files) (path : String) : Except ReadFault String :=
  match files path with
  | .error fault => .error fault
  | .ok bytes =>
    match Text.decodeUtf8? bytes with
    | some cs => .ok (String.ofList cs)
    | none => .error .notText

/-- Whether a path leads to something. -/
def exists? (files : Files) (path : String) : Bool :=
  match files path with
  | .error fault => !fault.isAbsence
  | .ok _ => true

/-- Settings, and the path of the file that they are from. -/
structure Loaded where
  settings : Settings
  path : Option String
deriving DecidableEq, Repr

/-- What is reported of settings. -/
def Loaded.message (l : Loaded) : String :=
  match l.path with
  | none => "No config file found, using defaults"
  | some path => s!"Loaded {l.settings.targets.length} target(s) from " ++ path

/-- The settings of a file. -/
def ofFile (files : Files) (path : String) : Except Error Loaded :=
  match readText files path with
  | .error fault => .error (.unreadable path fault)
  | .ok content => (ofToml path content).map (⟨·, some path⟩)

/-- The settings of the default location. -/
def ofDefault (files : Files) (path : Option String) : Except Error Loaded :=
  match path with
  | some path => if exists? files path then ofFile files path else .ok ⟨.standard, none⟩
  | none => .ok ⟨.standard, none⟩

/-- **The settings to use**: those of the path asked for, else those of the
environment's path, else those of the default location. -/
def load (files : Files) (asked environment default : Option String) : Except Error Loaded :=
  match asked.or environment with
  | some path => ofFile files path
  | none => ofDefault files default

/-- The default location below a directory for configuration files. -/
def defaultPath (directory : String) : String :=
  directory ++ "/keastat/config.toml"

end KeaGauge.Settings
