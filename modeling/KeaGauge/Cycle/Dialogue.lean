import KeaGauge.Cycle.Stage
import KeaGauge.Kea.Command
import KeaGauge.Notice
import KeaGauge.Sink.Basic
/-!
# Dialogues

A dialogue is what a cycle does, apart from those it deals with: it asks an
agent, hands batches to a sink, reports notices and passes stages, and what
it does next depends on the replies. `Dialogue.run` holds the dialogue with
an agent and a sink.

Commands that do not depend on each other are asked as one inquiry, several
of which may be unanswered at a time. `Dialogue.run` asks them one after the
other, which every limit allows.
-/

namespace KeaGauge

open Kea (Command)

/-- What comes back from an agent: the text of a body, or nothing. -/
abbrev Reply := Option String

/-- How an agent in a state answers a command, and the state after. -/
abbrev Agent (σ : Type) := σ → Command → Reply × σ

/-- Commands to ask in their order: how many of them may be unanswered at a
time, and which replies are failures. A failure ends the inquiry, and replies
to later commands are of no interest. -/
structure Inquiry where
  commands : List Command
  limit : Nat
  isFailure : Reply → Bool

namespace Inquiry

variable {σ : Type}

/-- Asks commands one after the other, up to the first after whose reply it
stops: the replies, and the agent's state after. -/
def inOrder (agent : Agent σ) (stops : Reply → σ → Bool) : List Command → σ → List Reply × σ
  | [], s => ([], s)
  | command :: rest, s =>
    let (reply, s) := agent s command
    if stops reply s then ([reply], s)
    else
      let (replies, s) := inOrder agent stops rest s
      (reply :: replies, s)

/-- The replies to an inquiry up to the first failure, and the agent's state
after. -/
def answers (q : Inquiry) (agent : Agent σ) (s : σ) : List Reply × σ :=
  inOrder agent (fun reply _ => q.isFailure reply) q.commands s

/-- The commands that replies are to. -/
def asked (q : Inquiry) (replies : List Reply) : List Command := q.commands.take replies.length

end Inquiry

/-- What is done until a result is reached. -/
inductive Dialogue (α : Type) where
  | done (result : α)
  | ask (command : Command) (next : Reply → Dialogue α)
  | askEach (inquiry : Inquiry) (next : List Reply → Dialogue α)
  | deliver (batch : List Metric) (next : Except SinkError Unit → Dialogue α)
  | note (notice : Notice) (next : Dialogue α)
  | pass (stage : Stage) (next : Dialogue α)

/-- Something that happened in a dialogue. -/
inductive Event where
  | asked (command : Command)
  | delivered (batch : List Metric)
  | noted (notice : Notice)
  | passed (stage : Stage)

/-- How a dialogue went: its result, what happened, and the states of the
agent and the sink at its end. -/
structure Course (α σ τ : Type) where
  result : α
  events : List Event
  agent : σ
  sink : τ

namespace Dialogue

variable {α σ τ : Type}

/-- Reports notices before going on. -/
def noting (notices : List Notice) (next : Dialogue α) : Dialogue α :=
  notices.foldr .note next

/-- **Holds a dialogue** with an agent and a sink. -/
def run (agent : Agent σ) (sink : Sink τ) : Dialogue α → σ → τ → Course α σ τ
  | .done result, s, t => ⟨result, [], s, t⟩
  | .ask command next, s, t =>
    let (reply, s) := agent s command
    let course := (next reply).run agent sink s t
    { course with events := .asked command :: course.events }
  | .askEach inquiry next, s, t =>
    let (replies, s) := inquiry.answers agent s
    let course := (next replies).run agent sink s t
    { course with events := (inquiry.asked replies).map .asked ++ course.events }
  | .deliver batch next, s, t =>
    let (taken, t) := sink t batch
    let course := (next taken).run agent sink s t
    { course with events := .delivered batch :: course.events }
  | .note notice next, s, t =>
    let course := next.run agent sink s t
    { course with events := .noted notice :: course.events }
  | .pass stage next, s, t =>
    let course := next.run agent sink s t
    { course with events := .passed stage :: course.events }

end Dialogue

namespace Event

/-- The commands asked. -/
def commands (events : List Event) : List Command :=
  events.filterMap fun
    | asked command => some command
    | _ => none

/-- The notices reported. -/
def notices (events : List Event) : List Notice :=
  events.filterMap fun
    | noted notice => some notice
    | _ => none

/-- The batches handed to the sink. -/
def batches (events : List Event) : List (List Metric) :=
  events.filterMap fun
    | delivered batch => some batch
    | _ => none

/-- The stages passed. -/
def stages (events : List Event) : List Stage :=
  events.filterMap fun
    | passed stage => some stage
    | _ => none

/-- The transitions made, the first from the start. -/
def transitions (events : List Event) : List Transition :=
  List.zipWith Transition.mk (.start :: stages events) (stages events)

end Event

end KeaGauge
