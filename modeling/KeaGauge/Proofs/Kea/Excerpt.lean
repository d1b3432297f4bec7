import KeaGauge.Proofs.Kea.Response
import KeaGauge.Proofs.Text.Utf8
import Mathlib.Data.Nat.Digits.Lemmas
/-!
# What an error quotes of a body

An error says what is wrong in words of its own, and behind them stands an
excerpt of what was found, so that it does not matter how long a body is
(`Error.Brief`). The exception is a result that is no integer: this is quoted
in full (`ofBody_of_misanswers`), and the message is as long as the result is.
-/

namespace KeaGauge

/-! ## Quoted texts -/

namespace Text

/-- A character is quoted by ten at most, for there are no more than six digits
to its code point. -/
theorem length_quoteChar_le (c : Char) : (quoteChar c).length ≤ 10 := by
  have hcode : c.toNat < 16 ^ 6 := by
    have hvalid : c.toNat < 0xD800 ∨ 0xDFFF < c.toNat ∧ c.toNat < 0x110000 := c.valid
    omega
  have hdigits := (Nat.length_toDigits_le_iff (by decide : 1 < 16) (by decide : 0 < 6)).2 hcode
  unfold quoteChar
  split_ifs <;> simp only [List.length_append, List.length_cons, List.length_nil] <;> omega

theorem length_quoted_le (s : String) : (quoted s).length ≤ 10 * s.length + 2 := by
  have hchars := length_flatMap_le length_quoteChar_le s.toList
  rw [String.length_toList] at hchars
  rw [quoted, String.length_ofList, List.length_cons, List.length_append, List.length_singleton]
  omega

end Text

namespace Kea

open Json (Value Object IsDocument)

/-! ## Words and quotations -/

namespace EnvelopeFault

/-- The words that there are for faults. -/
def wordings : List String :=
  ["expected a JSON list with one response object, got ",
    "expected exactly one response object, got ", "response list does not hold an object",
    "response object has no 'result'", "'result' is not an integer: "]

/-- The words of a fault. -/
def wording : EnvelopeFault → String
  | notList _ => "expected a JSON list with one response object, got "
  | wrongCount _ => "expected exactly one response object, got "
  | notObject => "response list does not hold an object"
  | noResult => "response object has no 'result'"
  | resultNotInteger _ => "'result' is not an integer: "

/-- The number of elements, where it is wrong. -/
def counted : EnvelopeFault → String
  | wrongCount n => toString n
  | _ => ""

/-- What a fault quotes of the document. -/
def quoted : EnvelopeFault → String
  | notList excerpt => excerpt
  | resultNotInteger v => v.text
  | _ => ""

theorem message_eq (fault : EnvelopeFault) :
    fault.message = fault.wording ++ fault.counted ++ fault.quoted := by
  cases fault with
  | notList excerpt => exact congrArg (· ++ excerpt) String.append_empty.symm
  | wrongCount n => exact String.append_empty.symm
  | notObject => rfl
  | noResult => rfl
  | resultNotInteger v => exact congrArg (· ++ v.text) String.append_empty.symm

theorem wording_mem (fault : EnvelopeFault) : fault.wording ∈ wordings := by
  cases fault <;> simp [wording, wordings]

theorem length_wording_le (fault : EnvelopeFault) : fault.wording.length ≤ 51 := by
  have hall : ∀ words ∈ wordings, words.length ≤ 51 := by decide
  exact hall _ fault.wording_mem

end EnvelopeFault

namespace Error

/-- The number of elements, where an error says that it is wrong. -/
def counted : Error → String
  | protocol _ fault => fault.counted
  | _ => ""

/-- **An error is brief**: it quotes the start of a body that is no document,
and of a document something, but never more than an excerpt. -/
inductive Brief (url body : String) : Error → Prop where
  | notJson {quoted : String} (start : quoted.toList <+: body.toList)
      (short : quoted.length ≤ 200) : Brief url body (.notJson url quoted)
  | protocol {fault : EnvelopeFault} (short : fault.quoted.length ≤ 200) :
      Brief url body (.protocol url fault)

variable {url body : String} {e : Error}

theorem length_notAnAgent (url : String) : (notAnAgent url).length = url.length + 50 := by
  rw [notAnAgent, String.length_append]
  rfl

/-- **The message of a brief error** is not long, a count aside. -/
theorem Brief.length_message_le (h : e.Brief url body) :
    e.message.length ≤ url.length + e.counted.length + 2100 := by
  cases h with
  | @notJson quoted _ short =>
    have hmessage : (Error.notJson url quoted).message =
        notAnAgent url ++ " (expected JSON, got " ++ Text.quoted quoted ++ ")" := rfl
    have hwords : " (expected JSON, got ".length = 21 ∧ ")".length = 1 := ⟨rfl, rfl⟩
    have hquoted := Text.length_quoted_le quoted
    rw [hmessage, String.length_append, String.length_append, String.length_append,
      length_notAnAgent, hwords.1, hwords.2]
    omega
  | @protocol fault short =>
    have hmessage : (Error.protocol url fault).message =
        notAnAgent url ++ ": " ++ fault.message := rfl
    have hcounted : (Error.protocol url fault).counted = fault.counted := rfl
    have hcolon : ": ".length = 2 := rfl
    have hwording := fault.length_wording_le
    rw [hmessage, hcounted, fault.message_eq, String.length_append, String.length_append,
      String.length_append, String.length_append, length_notAnAgent, hcolon]
    omega

end Error

/-! ## What is quoted of a body -/

/-- **A body answers with a result that is no integer**, or none that 64 signed
bits hold. -/
def Misanswers (body : String) (result : Value) : Prop :=
  ∃ o : Object, IsDocument body (.list [.object o]) ∧ o.get? "result" = some result ∧
    result.int64? = none

namespace Response

theorem length_excerpt_le (cs : List Char) : (excerpt cs).length ≤ 200 := by
  rw [excerpt, String.length_ofList]
  exact List.length_take_le _ _

theorem excerpt_start (cs : List Char) : (excerpt cs).toList <+: cs := by
  rw [excerpt, String.toList_ofList]
  exact List.take_prefix _ _

variable {url body : String} {v result : Value} {fault : EnvelopeFault} {e : Error}

/-- A document that holds no response is quoted by an excerpt, if at all, unless
it has a result that is no integer. -/
theorem quoted_of_ofValue (h : ofValue v = .error fault) :
    fault.quoted.length ≤ 200 ∨
      ∃ (o : Object) (result : Value), v = .list [.object o] ∧ o.get? "result" = some result ∧
        result.int64? = none ∧ fault = .resultNotInteger result := by
  unfold ofValue at h
  split at h
  · next o =>
    unfold ofObject at h
    split at h
    · obtain rfl := Except.error.inj h
      exact .inl (Nat.zero_le _)
    · next result found =>
      split at h
      · next hresult =>
        exact .inr ⟨o, result, rfl, found, hresult, (Except.error.inj h).symm⟩
      · exact absurd h (by simp)
  · obtain rfl := Except.error.inj h
    exact .inl (Nat.zero_le _)
  · obtain rfl := Except.error.inj h
    exact .inl (Nat.zero_le _)
  · obtain rfl := Except.error.inj h
    exact .inl (length_excerpt_le _)

/-- A result that is no integer is quoted in full. -/
theorem ofBody_of_misanswers (h : Misanswers body result) :
    ofBody url body = .error (.protocol url (.resultNotInteger result)) := by
  obtain ⟨o, document, found, hresult⟩ := h
  have hvalue : ofValue (.list [.object o]) = .error (.resultNotInteger result) := by
    change ofObject o = _
    simp only [ofObject, found, hresult]
  simp only [ofBody, Json.parse?_eq_some_iff.2 document, hvalue, Except.mapError]

/-- An error is brief, or it is about a result that is no integer. -/
theorem brief_or_misanswers (h : ofBody url body = .error e) :
    e.Brief url body ∨
      ∃ result, Misanswers body result ∧ e = .protocol url (.resultNotInteger result) := by
  unfold ofBody at h
  split at h
  · obtain rfl := Except.error.inj h
    exact .inl (.notJson (excerpt_start _) (length_excerpt_le _))
  · next v hparse =>
    cases hvalue : ofValue v with
    | ok r => exact absurd h (by simp [hvalue, Except.mapError])
    | error fault =>
      rw [hvalue] at h
      obtain rfl := Except.error.inj h
      obtain short | ⟨o, result, rfl, found, hresult, rfl⟩ := quoted_of_ofValue hvalue
      · exact .inl (.protocol short)
      · exact .inr ⟨result, ⟨o, Json.parse?_eq_some_iff.1 hparse, found, hresult⟩, rfl⟩

/-- **Errors are brief, but for one.** Whenever no response is read from a body,
the error is brief just when the body does not answer with a result that is no
integer and longer than an excerpt. The message of a brief error is not long,
however long the body is, and whatever is said of a document is worded in one of
five ways, with a count or a quotation behind the words. -/
theorem ofBody_error_brief (h : ofBody url body = .error e) :
    (e.Brief url body ↔ ∀ result, Misanswers body result → result.text.length ≤ 200) ∧
      (e.Brief url body → e.message.length ≤ url.length + e.counted.length + 2100) ∧
      ∀ fault, e = .protocol url fault → fault.wording ∈ EnvelopeFault.wordings ∧
        fault.message = fault.wording ++ fault.counted ++ fault.quoted := by
  refine ⟨⟨fun brief result misanswers => ?_, fun hshort => ?_⟩,
    fun brief => brief.length_message_le, fun fault _ => ⟨fault.wording_mem, fault.message_eq⟩⟩
  · obtain rfl := Except.error.inj (h.symm.trans (ofBody_of_misanswers misanswers))
    cases brief with
    | protocol short => exact short
  · obtain brief | ⟨result, misanswers, rfl⟩ := brief_or_misanswers h
    · exact brief
    · exact .protocol (hshort result misanswers)

/-- A page in place of an answer is quoted, and the error is brief. -/
theorem ofBody_error_brief_page :
    ofBody "http://192.0.2.1/" "<html>" = .error (.notJson "http://192.0.2.1/" "<html>") ∧
      (Error.notJson "http://192.0.2.1/" "<html>").Brief "http://192.0.2.1/" "<html>" := by
  have hparse : Json.parse? "<html>" = none := Option.isNone_iff_eq_none.1 (by decide +kernel)
  have hpage : ofBody "http://192.0.2.1/" "<html>" =
      .error (.notJson "http://192.0.2.1/" "<html>") := by
    rw [ofBody, hparse]
    rfl
  refine ⟨hpage, (ofBody_error_brief hpage).1.2 fun result misanswers => ?_⟩
  obtain ⟨o, document, -⟩ := misanswers
  exact absurd (hparse.symm.trans (Json.parse?_eq_some_iff.2 document)) (by simp)

/-- A list of one object with a text as its result. -/
theorem misanswers_string (s : String) :
    Misanswers (Value.list [.object [("result", .string s)]]).text (.string s) := by
  have hstable : (Value.list [.object [("result", .string s)]]).Stable Json.maxDepth := by
    have hresult : (Value.ofMembers [("result", .string s)]).Stable 126 :=
      .ofMembers (List.forall_mem_singleton.2 (.string s))
    exact .list (List.forall_mem_singleton.2 hresult)
  exact ⟨_, Json.parse?_eq_some_iff.1 hstable.parse?_text, rfl, rfl⟩

theorem length_escape_pos (c : Char) : 0 < (Json.escape c).length := by
  unfold Json.escape
  split_ifs <;> exact Nat.succ_pos _

theorem length_le_flatMap_escape (cs : List Char) :
    cs.length ≤ (cs.flatMap Json.escape).length := by
  induction cs with
  | nil => exact Nat.le_refl _
  | cons c rest ih =>
    have hc := length_escape_pos c
    rw [List.flatMap_cons, List.length_append, List.length_cons]
    omega

/-- The text of a string is longer than the string. -/
theorem length_text_string (s : String) : s.length < (Value.string s).text.length := by
  have htext : (Value.string s).text = String.ofList (Json.quote s.toList) := rfl
  have hchars := length_le_flatMap_escape s.toList
  rw [String.length_toList] at hchars
  rw [htext, String.length_ofList, Json.quote, List.length_cons, List.length_append]
  omega

/-- A body whose result is a text of three hundred characters. -/
def lengthy : String :=
  (Value.list [.object [("result", .string (String.ofList (List.replicate 300 'a')))]]).text

/-- **An error that is not brief.** The result is quoted to its end, far behind
where an excerpt ends. -/
theorem ofBody_lengthy : ∃ fault,
    ofBody "http://192.0.2.1/" lengthy = .error (.protocol "http://192.0.2.1/" fault) ∧
      fault.counted = "" ∧ fault.wording.length + 200 < fault.message.length := by
  refine ⟨_, ofBody_of_misanswers (misanswers_string _), rfl, ?_⟩
  have hlength := length_text_string (String.ofList (List.replicate 300 'a'))
  rw [String.length_ofList, List.length_replicate] at hlength
  rw [EnvelopeFault.message_eq, String.length_append, String.length_append,
    EnvelopeFault.quoted]
  omega

end Response

end Kea

end KeaGauge
