import KeaGauge.Proofs.Kea.Response
import KeaGauge.Proofs.Scripted.Script
import KeaGauge.Scripted.Fixture
/-!
# What is sent arrives

Between a client and a scripted agent everything travels as text. A response
that an agent is made to give is the one that the client reads, and members
that a response does not have do no harm (`Response.ofBody_envelope`). A
command that the client sends is the one that the agent gets, whatever
characters its name, its services and its arguments hold, and no two commands
look alike on their way (`Command.arrives`).
-/

namespace KeaGauge.Kea

open Json (Value Object Printable)
open Net (Family)
open Scripted (Answer Fixture.answer Script)

/-! ## Deep values -/

/-- Nothing in so many lists. -/
def nested : Nat → Value
  | 0 => .null
  | depth + 1 => .list [nested depth]

theorem printable_nested (depth : Nat) : Printable depth (nested depth) := by
  induction depth with
  | zero => exact .null
  | succ depth ih => exact .list fun v hv => List.mem_singleton.1 hv ▸ ih

theorem ordered_nested (depth : Nat) : (nested depth).Ordered := by
  induction depth with
  | zero => exact .null
  | succ depth ih => exact .list fun v hv => List.mem_singleton.1 hv ▸ ih

/-! ## Responses -/

namespace Response

/-- The names that a response is read from. -/
def memberNames : List String := ["result", "text", "arguments", "service"]

/-- The members that a response is written as. -/
def members (r : Response) : List (String × Value) :=
  [("result", .int r.result), ("text", .string r.text), ("arguments", .object r.arguments),
    ("service", .string r.service)]

/-- The answer that carries a response, and further members besides. -/
def envelope (r : Response) (further : List (String × Value)) : Value :=
  Fixture.answer (r.members ++ further)

section Envelope

variable {r : Response} {further : List (String × Value)}

/-- **Members of other names do not change what an object answers with.** -/
theorem answers_members (hlower : -0x8000000000000000 ≤ r.result)
    (hupper : r.result < 0x8000000000000000) (hnames : ∀ m ∈ further, m.1 ∉ memberNames) :
    Answers (Object.ofMembers (r.members ++ further)) r := by
  have hget : ∀ name ∈ memberNames, (Object.ofMembers (r.members ++ further)).get? name =
      if name = "service" then some (.string r.service)
      else if name = "arguments" then some (.object r.arguments)
      else if name = "text" then some (.string r.text)
      else if name = "result" then some (.int r.result) else none := by
    intro name hname
    rw [Object.get?_ofMembers_append fun m hm hsame => hnames m hm (hsame ▸ hname)]
    simp only [Object.ofMembers, members, List.foldl_cons, List.foldl_nil, Object.get?_insert]
    rfl
  exact ⟨hget "result" (by decide), hlower, hupper, .present (hget "text" (by decide)),
    .present (hget "arguments" (by decide)), .present (hget "service" (by decide))⟩

/-- The values in an answer are those of the response and the further ones. -/
theorem forall_mem_members {P : Value → Prop} (hresult : P (.int r.result))
    (hstring : ∀ s, P (.string s)) (harguments : P (.object r.arguments))
    (hfurther : ∀ m ∈ further, P m.2) : ∀ m ∈ r.members ++ further, P m.2 := by
  simp only [members, List.forall_mem_append, List.forall_mem_cons]
  exact ⟨⟨hresult, hstring _, harguments, hstring _, nofun⟩, hfurther⟩

theorem ordered_envelope (harguments : (Value.object r.arguments).Ordered)
    (hfurther : ∀ m ∈ further, m.2.Ordered) : (r.envelope further).Ordered :=
  .list fun _ hv => List.mem_singleton.1 hv ▸
    .ofMembers (forall_mem_members (.int _) .string harguments hfurther)

theorem printable_envelope {depth : Nat} (hresult : Json.IsExact r.result)
    (harguments : Printable depth (.object r.arguments))
    (hfurther : ∀ m ∈ further, Printable depth m.2) :
    Printable (depth + 2) (r.envelope further) :=
  .list fun _ hv => List.mem_singleton.1 hv ▸
    .ofMembers (forall_mem_members (.int hresult) .string harguments hfurther)

/-- **A response that is sent is the one that is read**, at any URL: its result
fits 64 signed bits, the objects in its arguments and in the further members
hold their members in order, and the whole answer can be read. -/
theorem ofBody_envelope (url : String) (hlower : -0x8000000000000000 ≤ r.result)
    (hupper : r.result < 0x8000000000000000) (hnames : ∀ m ∈ further, m.1 ∉ memberNames)
    (harguments : (Value.object r.arguments).Ordered) (hfurther : ∀ m ∈ further, m.2.Ordered)
    (hprintable : Printable Json.maxDepth (r.envelope further)) :
    ofBody url (Answer.json (r.envelope further)).sent.body = .ok r :=
  ofBody_text url ((ordered_envelope harguments hfurther).stable hprintable)
    (answers_members hlower hupper hnames)

end Envelope

/-- A response with the least result, with a text that has to be escaped, and
with as many lists in its arguments as may be open. -/
def deepest : Response :=
  ⟨-0x8000000000000000, "\"a\" \\ b\n\u0001", [("deep", nested 124)], "dhcp4"⟩

/-- Members with the bounds of what is read exactly. -/
def bounds : List (String × Value) :=
  [("zenith", .int 0xFFFFFFFFFFFFFFFF), ("nadir", .int (-0x8000000000000000))]

/-- The deepest answer is read. -/
theorem ofBody_deepest :
    ofBody "http://192.0.2.2:8000/" (Answer.json (deepest.envelope bounds)).sent.body =
      .ok deepest := by
  have hordered : (Value.object deepest.arguments).Ordered :=
    .object (List.pairwise_singleton _ _) fun _ hm => List.mem_singleton.1 hm ▸ ordered_nested 124
  have hprintable : Printable 125 (Value.object deepest.arguments) :=
    .object fun _ hm => List.mem_singleton.1 hm ▸ printable_nested 124
  have hbounds : ∀ m ∈ bounds, ∃ n, m.2 = .int n ∧ Json.IsExact n := by
    unfold bounds
    simp only [List.forall_mem_cons]
    exact ⟨⟨_, rfl, by decide, by decide⟩, ⟨_, rfl, by decide, by decide⟩, nofun⟩
  refine ofBody_envelope _ (by decide) (by decide) (by decide) hordered (fun m hm => ?_)
    (printable_envelope ⟨by decide, by decide⟩ hprintable fun m hm => ?_)
  · obtain ⟨n, hn, -⟩ := hbounds m hm
    exact hn ▸ .int n
  · obtain ⟨n, hn, hexact⟩ := hbounds m hm
    exact hn ▸ .int hexact

end Response

/-! ## Commands -/

/-- The name of a service tells the family. -/
theorem serviceName_inj {a b : Family} (h : serviceName a = serviceName b) : a = b := by
  cases a <;> cases b <;> first | rfl | exact absurd h (by decide)

namespace Command

/-- **A command that can be sent**: the objects in its arguments hold their
members in order, and what it travels as can be read. -/
structure Sendable (c : Command) : Prop where
  ordered : (Value.object c.arguments).Ordered
  printable : Printable Json.maxDepth c.document

/-- What arrives of a command: an object of its arguments, its name and the
names of its services. -/
def received (c : Command) : Value :=
  .object [("arguments", .object c.arguments), ("command", .string c.name),
    ("service", .ofTexts (c.services.map serviceName))]

variable {c d : Command}

theorem Sendable.normal_document (h : c.Sendable) : c.document.normal = c.received := by
  have hbefore : "arguments" < "command" := by decide
  have hbehind : ¬ "service" < "arguments" ∧ ¬ "service" < "command" := by decide
  -- the name goes behind the arguments, and nothing else moves
  rw [Command.normal_document, h.ordered.normal_eq, received]
  simp [Value.ofMembers, Object.ofMembers, Object.insert, Object.empty, hbefore, hbehind.1,
    hbehind.2]

/-- The bytes of a command are the request that it is. -/
theorem Sendable.requestOfBytes (h : c.Sendable) :
    Script.requestOfBytes c.body.toUTF8.toList = c.received := by
  rw [Script.requestOfBytes_toUTF8, Script.requestOf, body_eq, Json.parse?_text h.printable,
    h.normal_document, Option.getD_some]

theorem sendable_statisticGet (family : Family) (statistic : String) :
    (statisticGet family statistic).Sendable where
  ordered := .object (List.pairwise_singleton _ _) fun _ hm =>
    List.mem_singleton.1 hm ▸ .string statistic
  printable := printable_document fun _ hm =>
    List.mem_singleton.1 hm ▸ .string statistic

/-- **What arrives of a command tells the command.** -/
theorem received_inj (h : c.received = d.received) : c = d := by
  obtain ⟨name, services, arguments⟩ := c
  obtain ⟨name', services', arguments'⟩ := d
  simp only [received, Value.ofTexts, Value.object.injEq, List.cons.injEq, Prod.mk.injEq,
    Value.string.injEq, Value.list.injEq, true_and, and_true] at h
  obtain ⟨rfl, rfl, htexts⟩ := h
  have hnames := (List.map_injective_iff.2 fun _ _ => Value.string.inj) htexts
  have hservices := (List.map_injective_iff.2 fun _ _ => serviceName_inj) hnames
  rw [hservices]

/-- **Commands arrive as they are meant.** The bytes of a command are decoded
as an object of exactly its arguments, its name and the names of its services;
whatever a statistic is called, a request for it can be sent; and two commands
that can be sent have different bodies. -/
theorem arrives :
    (∀ c : Command, c.Sendable → Script.requestOfBytes c.body.toUTF8.toList =
      .object [("arguments", .object c.arguments), ("command", .string c.name),
        ("service", .ofTexts (c.services.map serviceName))]) ∧
    (∀ family statistic, (statisticGet family statistic).Sendable) ∧
    ∀ c d : Command, c.Sendable → d.Sendable → c.body = d.body → c = d := by
  refine ⟨fun c h => h.requestOfBytes, sendable_statisticGet, fun c d hc hd hbody => ?_⟩
  refine received_inj ?_
  rw [← hc.requestOfBytes, ← hd.requestOfBytes, hbody]

/-- A command that has to be escaped all over, for services in any order, with
as many lists in its arguments as may be open. -/
def escaped : Command :=
  ⟨"a\",\"b\\\n\u0001é", [.v6, .v4, .v6], [("deep \"", nested 125)]⟩

/-- It arrives, and is told from a request for a statistic of any name. -/
theorem arrives_escaped :
    Script.requestOfBytes escaped.body.toUTF8.toList =
      .object [("arguments", .object [("deep \"", nested 125)]),
        ("command", .string "a\",\"b\\\n\u0001é"),
        ("service", .list [.string "dhcp6", .string "dhcp4", .string "dhcp6"])] ∧
    ∀ family statistic, escaped.body ≠ (statisticGet family statistic).body := by
  have hsendable : escaped.Sendable :=
    { ordered := .object (List.pairwise_singleton _ _) fun _ hm =>
        List.mem_singleton.1 hm ▸ ordered_nested 125
      printable := printable_document fun _ hm =>
        List.mem_singleton.1 hm ▸ printable_nested 125 }
  refine ⟨arrives.1 escaped hsendable, fun family statistic hbody => ?_⟩
  have hsame := arrives.2.2 _ _ hsendable (arrives.2.1 family statistic) hbody
  have hother : escaped.name ≠ "statistic-get" := by decide
  exact hother (congrArg Command.name hsame)

end Command

end KeaGauge.Kea
