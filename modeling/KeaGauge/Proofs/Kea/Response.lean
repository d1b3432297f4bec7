import KeaGauge.Kea.Response
import KeaGauge.Proofs.Json.RoundTrip
import KeaGauge.Proofs.Json.View
/-!
# Which bodies hold a response

Every body is classified by the document that it is, if it is one: a document
that is a list of a single object with an integer result holds a response
(`IsEnvelope`), any other document is a fault of the protocol, and what is no
document is no JSON (`ofBody_classifies`). The response is read off the object
member by member (`Answers`), and members of other names do not matter.
-/

namespace KeaGauge.Kea

open Json (Value Object IsDocument)

/-- **The text under a name**: that of the string there, and an empty one when
there is no such member or it is no string. -/
def TextAt (o : Object) (name : String) : String → Prop :=
  Json.Found (Object.get? o name) .string ""

/-- **The members under a name**: those of the object there, and none when
there is no such member or it is no object. -/
def MembersAt (o : Object) (name : String) : Object → Prop :=
  Json.Found (Object.get? o name) .object []

/-- **An object answers with a response.** Its result is an integer that 64
signed bits hold. -/
structure Answers (o : Object) (r : Response) : Prop where
  result : o.get? "result" = some (.int r.result)
  lower : -0x8000000000000000 ≤ r.result
  upper : r.result < 0x8000000000000000
  text : TextAt o "text" r.text
  arguments : MembersAt o "arguments" r.arguments
  service : TextAt o "service" r.service

/-- **A document holds a response**: it is a list of exactly one element, an
object whose result is an integer that 64 signed bits hold. -/
def IsEnvelope (v : Value) : Prop :=
  ∃ (o : Object) (n : Int), v = .list [.object o] ∧ o.get? "result" = some (.int n) ∧
    -0x8000000000000000 ≤ n ∧ n < 0x8000000000000000

namespace Response

variable {o : Object} {v : Value} {r : Response} {name : String}

theorem textAt_iff {s : String} : TextAt o name s ↔ textAt o name = s :=
  Json.found_iff fun _ _ => Value.text?_eq_some_iff

theorem membersAt_iff {members : Object} :
    MembersAt o name members ↔ objectAt o name = members := by
  constructor
  · rintro (⟨found⟩ | ⟨missing⟩)
    · rw [objectAt, found]
    · unfold objectAt
      split
      · next members found => exact absurd found (missing members)
      · rfl
  · rintro rfl
    unfold objectAt
    split
    · next members found => exact .present found
    · next missing => exact .absent missing

/-- **The response of an object is the one that it answers with.** -/
theorem ofObject_eq_ok_iff : ofObject o = .ok r ↔ Answers o r := by
  unfold ofObject
  constructor
  · intro h
    split at h
    · exact absurd h (by simp)
    · next v found =>
      split at h
      · exact absurd h (by simp)
      · next n hresult =>
        obtain rfl := Except.ok.inj h
        obtain ⟨rfl, lower, upper⟩ := Value.int64?_eq_some_iff.1 hresult
        exact ⟨found, lower, upper, textAt_iff.2 rfl, membersAt_iff.2 rfl, textAt_iff.2 rfl⟩
  · rintro ⟨result, lower, upper, htext, harguments, hservice⟩
    have hresult := Value.int64?_eq_some_iff.2 ⟨rfl, lower, upper⟩
    simp only [result, hresult, textAt_iff.1 htext, membersAt_iff.1 harguments,
      textAt_iff.1 hservice]

theorem ofValue_eq_ok_iff : ofValue v = .ok r ↔ ∃ o, v = .list [.object o] ∧ Answers o r := by
  simp only [← ofObject_eq_ok_iff]
  unfold ofValue
  split <;> simp_all

/-- **The text of a list with one object is read** as the response that this
object answers with. -/
theorem ofBody_text (url : String) (hstable : (Value.list [.object o]).Stable Json.maxDepth)
    (h : Answers o r) : ofBody url (Value.list [.object o]).text = .ok r := by
  rw [ofBody, hstable.parse?_text]
  change (ofObject o).mapError _ = _
  rw [ofObject_eq_ok_iff.2 h]
  rfl

/-- A document holds a response just when there is one to be read. -/
theorem isEnvelope_iff : IsEnvelope v ↔ ∃ r, ofValue v = .ok r := by
  simp only [ofValue_eq_ok_iff]
  constructor
  · rintro ⟨o, n, rfl, found, lower, upper⟩
    exact ⟨⟨n, _, _, _⟩, o, rfl, found, lower, upper, textAt_iff.2 rfl, membersAt_iff.2 rfl,
      textAt_iff.2 rfl⟩
  · rintro ⟨r, o, rfl, answers⟩
    exact ⟨o, r.result, rfl, answers.result, answers.lower, answers.upper⟩

/-- **Every body is classified** by the document that it is, and a response is
what the object in it answers with. -/
theorem ofBody_classifies (url body : String) :
    ((∃ quoted, ofBody url body = .error (.notJson url quoted)) ↔ ∀ v, ¬ IsDocument body v) ∧
      ((∃ r, ofBody url body = .ok r) ↔ ∃ v, IsDocument body v ∧ IsEnvelope v) ∧
      ((∃ fault, ofBody url body = .error (.protocol url fault)) ↔
        ∃ v, IsDocument body v ∧ ¬ IsEnvelope v) ∧
      ∀ r, ofBody url body = .ok r ↔ ∃ o, IsDocument body (.list [.object o]) ∧ Answers o r := by
  have hdocument : ∀ v, IsDocument body v ↔ Json.parse? body = some v := fun v =>
    Json.parse?_eq_some_iff.symm
  simp only [hdocument, isEnvelope_iff]
  unfold ofBody
  cases hparse : Json.parse? body with
  | none => simp
  | some v =>
    have hresponse : ∀ r, (∃ o, v = .list [.object o] ∧ Answers o r) ↔ ofValue v = .ok r :=
      fun r => ofValue_eq_ok_iff.symm
    cases hvalue : ofValue v with
    | ok r => simp [hvalue, hresponse, Except.mapError]
    | error fault => simp [hvalue, hresponse, Except.mapError]

end Response

end KeaGauge.Kea
