import KeaGauge.Cycle.Dialogue
import KeaGauge.Kea.Response
import KeaGauge.Kea.Snapshot
/-!
# Readings

What the collector makes of a reply: the response in it, and for a reply to
`config-get` the snapshot of the configuration, unless the agent refused to
hand it out.
-/

namespace KeaGauge

open Kea (Command Response Snapshot)
open Net (Family)

/-- The response in a reply. -/
def Reply.response (url : String) : Reply → Except Kea.Error Response
  | none => .error (.transport url)
  | some body => Response.ofBody url body

/-- What is reported of a response to a command: that it is no success. -/
def responseNotices (url : String) (command : Command) (r : Response) : List Notice :=
  if r.isSuccess then [] else [.unfulfilled url command.name r.result r.text]

/-- What a reading of the configuration brings. -/
inductive Reading where
  | snapshot (s : Snapshot)
  /-- The agent answered with another result than success. -/
  | refused (result : Int) (text : String)
deriving DecidableEq

namespace Reading

/-- The reading of a response, and what is reported of it. A successful
response holds a configuration of the family asked for. -/
def ofResponse (family : Family) (r : Response) : Except Kea.Error Reading × List Notice :=
  if r.isSuccess then
    match Snapshot.ofObject r.arguments with
    | .error fault => (.error (.config fault), [])
    | .ok (s, notices) =>
      (if s.family = family then .ok (.snapshot s)
        else .error (.config (.otherFamily family s.family)), notices)
  else (.ok (.refused r.result r.text), [])

/-- The reading of a reply to `config-get`, and what is reported of it. -/
def ofReply (url : String) (family : Family) (reply : Reply) :
    Except Kea.Error Reading × List Notice :=
  match reply.response url with
  | .error e => (.error e, [])
  | .ok r =>
    let (reading, notices) := ofResponse family r
    (reading, responseNotices url (.configGet family) r ++ notices)

end Reading

end KeaGauge
