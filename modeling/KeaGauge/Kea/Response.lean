import KeaGauge.Kea.Error
import KeaGauge.Kea.Status
import KeaGauge.Json.Reader
/-!
# Responses

A Control Agent answers with a JSON list that holds one object per service.
Commands here are for one service, so an answer is a list of exactly one
object, and the object has an integer result. Its text, arguments and
service may be absent; one of a wrong type counts as absent.
-/

namespace KeaGauge.Kea

open Json (Value Object)

/-- The answer of one service. -/
structure Response where
  result : Int
  text : String
  arguments : Object
  service : String

namespace Response

/-- Whether the command was carried out. -/
def isSuccess (r : Response) : Bool := r.result = Status.success.code

/-- The meaning of the result, if it has a fixed one. -/
def status? (r : Response) : Option Status := Status.ofCode? r.result

/-- How many characters of a body an error quotes. -/
def excerptLength : Nat := 200

/-- The start of a text. -/
def excerpt (cs : List Char) : String := String.ofList (cs.take excerptLength)

/-- The text of a member, or an empty one. -/
def textAt (o : Object) (name : String) : String :=
  ((o.get? name).bind Value.text?).getD ""

/-- The members of an object that is a member, or none. -/
def objectAt (o : Object) (name : String) : Object :=
  match o.get? name with
  | some (.object members) => members
  | _ => .empty

/-- The response that an object holds. -/
def ofObject (o : Object) : Except EnvelopeFault Response :=
  match o.get? "result" with
  | none => .error .noResult
  | some v =>
    match v.int64? with
    | none => .error (.resultNotInteger v)
    | some result =>
      .ok ⟨result, textAt o "text", objectAt o "arguments", textAt o "service"⟩

/-- The response that a JSON document holds. -/
def ofValue (v : Value) : Except EnvelopeFault Response :=
  match v with
  | .list [.object o] => ofObject o
  | .list [_] => .error .notObject
  | .list items => .error (.wrongCount items.length)
  | v => .error (.notList (excerpt v.chars))

/-- **The response that a body holds.** -/
def ofBody (url body : String) : Except Error Response :=
  match Json.parse? body with
  | none => .error (.notJson url (excerpt body.toList))
  | some v => (ofValue v).mapError (.protocol url)

end Response

end KeaGauge.Kea
