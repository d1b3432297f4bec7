import KeaGauge.Carbon.Receiver
import KeaGauge.Net.Http
import KeaGauge.Poll.Pass
import KeaGauge.Scripted.Link
/-!
# Scripted networks

Scripted agents and a receiver of lines that listen on the ports of one
machine. A target or a writer finds who listens on its port, if its host is
that machine; elsewhere there is nobody. An agent takes lines for a request
that is none, and a receiver takes a request for lines.
-/

namespace KeaGauge.Scripted

open Carbon (Receiver Writer)
open Net (Address Host Url)

/-- An agent's port, whether anybody listens on it, and the script. -/
structure Listener where
  listensOn : Nat
  isUp : Bool
  script : Script

/-- The listeners and the receiver of a machine, with the receiver's port. -/
structure Network where
  listeners : List Listener
  receivesOn : Nat
  receiver : Receiver

namespace Network

/-- The address of the machine for itself. -/
def loopback : Address := .ofNat .v4 0x7F000001

/-- Whether a host is the machine. -/
def isHere : Host → Bool
  | .address a => a = loopback
  | .name n => n.map Char.toLower = "localhost"

/-- The listener at a port of a host. -/
def listenerAt? (n : Network) (host : Host) (port : Nat) : Option Listener :=
  if isHere host then n.listeners.find? (·.listensOn = port) else none

/-- Whether an agent listens at a port of a host. -/
def listensAt (n : Network) (host : Host) (port : Nat) : Bool :=
  (n.listenerAt? host port).any (·.isUp)

/-- Whether the receiver is at a port of a host. -/
def receivesAt (n : Network) (host : Host) (port : Nat) : Bool :=
  isHere host && n.receivesOn = port

/-! ## Targets -/

/-- The listener that a target finds. -/
def listenerOf? (n : Network) (t : Settings.Target) : Option Listener :=
  t.location?.bind fun url => n.listenerAt? url.host url.port

/-- The agent that a target finds. -/
def agentOf (n : Network) (t : Settings.Target) : Agent Script :=
  match t.location? with
  | some url => (Link.toUrl (n.listensAt url.host url.port) url (1000 * t.timeout.toNat)).agent
  | none => fun s _ => (none, s)

/-- The lines that the receiver gets when commands come to it. -/
def linesOf (n : Network) (t : Settings.Target) (commands : List Kea.Command) : List String :=
  match t.location? with
  | some url =>
    if n.receivesAt url.host url.port && !url.isEncrypted then
      commands.flatMap fun command => Carbon.textLines (Net.Http.post url command.body)
    else []
  | none => []

/-! ## Writers -/

/-- Whether a writer finds the receiver. -/
def isFoundBy (n : Network) (w : Writer) : Bool := n.receivesAt (.ofText w.host) w.port.toNat

/-- What a writer finds. Lines that an agent takes for a request are lost. -/
def receiverOf (n : Network) (w : Writer) : Receiver :=
  if n.isFoundBy w then n.receiver
  else if n.listensAt (.ofText w.host) w.port.toNat then .fresh
  else .down

/-! ## Passes -/

/-- The station of a target. -/
def station (n : Network) (w : Writer) (t : Settings.Target) : Station Script Receiver :=
  ⟨t, n.agentOf t, (w.forTarget t).sink,
    ((n.listenerOf? t).map (·.script)).getD .empty, n.receiverOf w⟩

/-- The network after a visit, where a listener's script has gone on and the
receiver has got lines. -/
def after (n : Network) (w : Writer) (t : Settings.Target) (v : Visit Script Receiver) : Network :=
  let found := (n.listenerOf? t).map (·.listensOn)
  let receiver := if n.isFoundBy w then v.course.sink else n.receiver
  { n with
    listeners := n.listeners.map fun l =>
      if found = some l.listensOn then { l with script := v.course.agent } else l
    receiver := { receiver with
      lines := receiver.lines ++ n.linesOf t (Event.commands v.course.events) } }

/-- **A pass** over targets of the network, one after the other. -/
def pass (s : Settings) : Network → List Settings.Target → List (Visit Script Receiver) × Network
  | n, [] => ([], n)
  | n, t :: rest =>
    let w := Writer.ofSettings s.carbon
    let visit := (n.station w t).visit s.collecting
    let (later, n) := pass s (n.after w t visit) rest
    (visit :: later, n)

end Network

end KeaGauge.Scripted
