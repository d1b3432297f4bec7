import KeaGauge.Json.Printer
import KeaGauge.Json.Reader
import KeaGauge.Text.Utf8
/-!
# Scripted agents

An agent that answers by a script. A request for a statistic that is
registered under its name is answered by what is registered, as often as it
comes; any other takes the next answer of a queue. Every request is kept. A
body that is too long never becomes a request (`Script.post`).
-/

namespace KeaGauge.Scripted

open Json (Value)

/-- An answer of the queue. -/
inductive Answer where
  | json (v : Value)
  | raw (body : String)
  /-- An answer that comes so many milliseconds late. -/
  | delayed (delay : Nat) (v : Value)

/-- What is sent back: the status of HTTP, whether the body is said to be
JSON, the body, and how many milliseconds it is late. -/
structure Sent where
  status : Nat
  isJson : Bool
  body : String
  delay : Nat
deriving DecidableEq, Repr

/-- What is sent back of an answer. -/
def Answer.sent : Answer → Sent
  | json v => ⟨200, true, v.text, 0⟩
  | raw body => ⟨200, false, body, 0⟩
  | delayed delay v => ⟨200, true, v.text, delay⟩

/-- What is sent back when there is no answer. -/
def unscripted : Sent := ⟨500, false, "no scripted answer", 0⟩

/-- The longest body that is taken in, in bytes: two mebibytes. -/
def maxBody : Nat := 2097152

/-- What is sent back for a body that is longer. -/
def tooLong : Sent :=
  ⟨413, false, "Failed to buffer the request body: length limit exceeded", 0⟩

/-- An agent's script, and the requests it has got, in their order. -/
structure Script where
  queue : List Answer
  registered : List (String × Value)
  requests : List Value

namespace Script

/-- The script without answers. -/
def empty : Script := ⟨[], [], []⟩

/-- Puts an answer at the end of the queue. -/
def enqueue (s : Script) (a : Answer) : Script := { s with queue := s.queue ++ [a] }

/-- Registers the answer for a statistic. -/
def register (s : Script) (statistic : String) (answer : Value) : Script :=
  { s with registered := (statistic, answer) :: s.registered }

/-- How many answers are left in the queue. -/
def pending (s : Script) : Nat := s.queue.length

/-- The name of the command in a request, or an empty one. -/
def commandOf (request : Value) : String :=
  ((request.get? "command").bind Value.text?).getD ""

/-- The name of the statistic that a request asks for. -/
def statisticOf? (request : Value) : Option String :=
  if commandOf request = "statistic-get" then
    ((request.get? "arguments").bind (·.get? "name")).bind Value.text?
  else none

/-- The names of the commands that the agent has got. -/
def commands (s : Script) : List String := s.requests.map commandOf

/-- What is registered for a request. -/
def registeredFor? (s : Script) (request : Value) : Option Value :=
  (statisticOf? request).bind (s.registered.lookup ·)

/-- What a request takes from the script. -/
def take (s : Script) (request : Value) : Option Answer × List Answer :=
  match s.registeredFor? request with
  | some answer => (some (.json answer), s.queue)
  | none => (s.queue.head?, s.queue.tail)

/-- **Gets a request.** -/
def receive (s : Script) (request : Value) : Sent × Script :=
  let (answer, queue) := s.take request
  ((answer.map Answer.sent).getD unscripted,
    { s with queue := queue, requests := s.requests ++ [request] })

/-- The request that a body is; one that is not JSON counts as null. -/
def requestOf (body : String) : Value := (Json.parse? body).getD .null

/-- The request that bytes are. -/
def requestOfBytes (body : List UInt8) : Value :=
  ((Text.decodeUtf8? body).bind Json.parseChars?).getD .null

/-- **Gets a body.** One that is too long is turned away before the script is
looked at. -/
def post (s : Script) (body : List UInt8) : Sent × Script :=
  if body.length ≤ maxBody then s.receive (requestOfBytes body) else (tooLong, s)

end Script

end KeaGauge.Scripted
