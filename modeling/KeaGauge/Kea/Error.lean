import KeaGauge.Kea.Service
import KeaGauge.Json.Printer
import KeaGauge.Text.Quoted
/-!
# What goes wrong with a Control Agent

The causes, from an agent that cannot be reached to a configuration that
cannot be read, each with the message that reports it.
-/

namespace KeaGauge.Kea

open Net (Family)
open Json (Value)

/-- Why a JSON document is not an answer to one command for one service. -/
inductive EnvelopeFault where
  /-- It is not a list; the start of its text. -/
  | notList (excerpt : String)
  /-- It is a list of some other number of elements than one. -/
  | wrongCount (n : Nat)
  | notObject
  | noResult
  | resultNotInteger (v : Value)

namespace EnvelopeFault

/-- What is said of the fault. -/
def message : EnvelopeFault → String
  | notList excerpt => "expected a JSON list with one response object, got " ++ excerpt
  | wrongCount n => s!"expected exactly one response object, got {n}"
  | notObject => "response list does not hold an object"
  | noResult => "response object has no 'result'"
  | resultNotInteger v => "'result' is not an integer: " ++ v.text

end EnvelopeFault

/-- Why a document is not the configuration of one DHCP server. -/
inductive ConfigFault where
  /-- It is not an object but a value of some other kind. -/
  | notObject (kind : String)
  | bothSections
  | unexpectedMember (name : String)
  | noSection
  /-- The section of a family is not an object but of some other kind. -/
  | sectionNotObject (family : Family) (kind : String)
  /-- It configures another server than the one asked about. -/
  | otherFamily (asked got : Family)
deriving DecidableEq

namespace ConfigFault

/-- What is said of the fault. -/
def message : ConfigFault → String
  | notObject kind => "expected a JSON object, got " ++ kind
  | bothSections => "expected a single Dhcp4 or Dhcp6 configuration, got both"
  | unexpectedMember name => "unexpected top-level key '" ++ name ++ "'"
  | noSection => "expected a Dhcp4 or Dhcp6 configuration"
  | sectionNotObject family kind =>
    sectionName family ++ " section is " ++ kind ++ ", expected an object"
  | otherFamily asked got =>
    "asked for a " ++ protocolName asked ++ " configuration, got " ++ protocolName got

end ConfigFault

/-- Why a command brought no usable answer. -/
inductive Error where
  /-- No answer came: no connection, no encryption, or not in time. -/
  | transport (url : String)
  /-- The body is not JSON; the start of it. -/
  | notJson (url : String) (excerpt : String)
  /-- The body is JSON, but not the answer of a Control Agent. -/
  | protocol (url : String) (fault : EnvelopeFault)
  /-- The configuration that was handed out cannot be read. -/
  | config (fault : ConfigFault)

/-- The kinds of error that are told apart when one is reported. -/
inductive ErrorKind where
  | transport
  | protocol
  | config
deriving DecidableEq

namespace Error

/-- The kind of an error. What is not JSON did not come from an agent, so it
counts as a failure to reach one. -/
def kind : Error → ErrorKind
  | transport _ | notJson _ _ => .transport
  | protocol _ _ => .protocol
  | config _ => .config

/-- Whether no agent was reached. -/
def isTransport (e : Error) : Bool := e.kind = .transport

/-- What is said of an address at which something else than an agent
answers. -/
def notAnAgent (url : String) : String :=
  url ++ " most likely does not point at a Kea Control Agent"

/-- What is said of the error. -/
def message : Error → String
  | transport url => "HTTP error while querying Kea Control Agent at " ++ url
  | notJson url excerpt =>
    notAnAgent url ++ " (expected JSON, got " ++ Text.quoted excerpt ++ ")"
  | protocol url fault => notAnAgent url ++ ": " ++ fault.message
  | config fault => "malformed Kea DHCP configuration: " ++ fault.message

end Error

end KeaGauge.Kea
