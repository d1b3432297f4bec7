import KeaGauge.Cycle.Dialogue
import KeaGauge.Net.Url
import KeaGauge.Scripted.Script
/-!
# Links to scripted agents

A command reaches a scripted agent over a link. Nothing comes back when the
agent is not there, when the link is to be encrypted, which a scripted agent
does not understand, or when the answer comes too late. An agent answers at
the root only; at other paths there is nobody, and an empty body comes back.
-/

namespace KeaGauge.Scripted

/-- A link: whether an agent is at its end, whether it is to be encrypted,
whether it leads to the root, and after how many milliseconds an answer is too
late. -/
structure Link where
  isUp : Bool
  isEncrypted : Bool
  isToRoot : Bool
  timeout : Nat
deriving DecidableEq, Repr

namespace Link

/-- A plain link to the root of an agent. -/
def plain (timeout : Nat) : Link := ⟨true, false, true, timeout⟩

/-- The link to a URL, where an agent may be. -/
def toUrl (isUp : Bool) (url : Net.Url) (timeout : Nat) : Link :=
  ⟨isUp, url.isEncrypted, url.path = "/", timeout⟩

/-- Whether commands are understood at the other end. -/
def reaches (l : Link) : Bool := l.isUp && !l.isEncrypted

/-- What comes back of what an agent sends. A byte-order mark is no part of a
body's text. -/
def reply (l : Link) (sent : Sent) : Reply :=
  if sent.delay < l.timeout then some (Text.dropMark sent.body) else none

/-- **A scripted agent behind a link.** -/
def agent (l : Link) : Agent Script := fun s command =>
  if !l.reaches then (none, s)
  else if !l.isToRoot then (some "", s)
  else
    let (sent, s) := s.post command.body.toUTF8.toList
    (l.reply sent, s)

end Link

end KeaGauge.Scripted
