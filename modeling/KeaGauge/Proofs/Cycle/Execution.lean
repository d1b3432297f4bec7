import KeaGauge.Cycle.Dialogue
import Mathlib.Data.List.Basic
/-!
# Executions of a dialogue

`Dialogue.run` asks the commands of an inquiry one after the other, of an
agent that is a function. Here a dialogue goes on step by step and in every
way it may: the agent is a relation (`World`), an inquiry has up to its limit
of commands unanswered, any of them may be answered next, and replies are
taken up in the order of the commands (`Inquiry.Step`). `Completes` says how
a dialogue can come to its result, and one lemma for each kind of dialogue
says what its executions are made of. The run of a dialogue is one of its
executions (`run_completes`).
-/

namespace KeaGauge

open Kea (Command)

/-- How an agent in a state may answer a command, and the state then. The
state may have changed in any way since the answer before. -/
abbrev World (σ : Type) := σ → Command → Reply → σ → Prop

/-- The world of an agent that is a function. -/
def Agent.world {σ : Type} (agent : Agent σ) : World σ := fun s command reply s' =>
  agent s command = (reply, s')

/-- An agent that gives replies one after the other, and then none. Its state
is how many it gave. -/
def Agent.inTurn (replies : List Reply) : Agent Nat := fun n _ => (replies[n]?.join, n + 1)

/-- Something that happens in an execution. The commands of an inquiry are
known by their places in it. -/
inductive Happening (σ : Type) where
  | sent (place : Nat) (command : Command)
  /-- A reply came, and the agent's state was this when it answered. -/
  | answered (place : Nat) (command : Command) (reply : Reply) (state : σ)
  | taken (command : Command) (reply : Reply)
  | delivered (batch : List Metric)
  | noted (notice : Notice)
  | passed (stage : Stage)

namespace Happening

variable {σ : Type}

/-- The event that is seen of it. -/
def event? : Happening σ → Option Event
  | sent _ command => some (.asked command)
  | answered .. | taken .. => none
  | delivered batch => some (.delivered batch)
  | noted notice => some (.noted notice)
  | passed stage => some (.passed stage)

/-- What is seen of a trace. -/
def events (trace : List (Happening σ)) : List Event := trace.filterMap event?

/-- The commands with the replies taken up, in this order. -/
def takings (trace : List (Happening σ)) : List (Command × Reply) :=
  trace.filterMap fun
    | taken command reply => some (command, reply)
    | _ => none

/-- An exchange of a single command and its reply. -/
def exchange (command : Command) (reply : Reply) (s : σ) : List (Happening σ) :=
  [sent 0 command, answered 0 command reply s, taken command reply]

end Happening

/-- What a relation of steps, each with its happenings, leads to. -/
inductive Reaches {S E : Type} (step : S → List E → S → Prop) : S → List E → S → Prop where
  | refl (a : S) : Reaches step a [] a
  | next {a b c : S} {first rest : List E} (head : step a first b) (tail : Reaches step b rest c) :
      Reaches step a (first ++ rest) c

namespace Reaches

variable {S E : Type} {step : S → List E → S → Prop} {a b c : S} {es fs : List E}

theorem single (h : step a es b) : Reaches step a es b := by
  have := next h (refl b)
  rwa [List.append_nil] at this

theorem trans (first : Reaches step a es b) (second : Reaches step b fs c) :
    Reaches step a (es ++ fs) c := by
  induction first with
  | refl => exact second
  | next head _ ih =>
    rw [List.append_assoc]
    exact next head (ih second)

/-- **What every step preserves holds throughout**, where the trace so far is
part of what is preserved. -/
theorem invariant {P : List E → S → Prop}
    (preserves : ∀ es a fs b, P es a → step a fs b → P (es ++ fs) b)
    (h : Reaches step a fs b) (es : List E) (initial : P es a) : P (es ++ fs) b := by
  induction h generalizing es with
  | refl => rwa [List.append_nil]
  | next head _ ih =>
    rw [← List.append_assoc]
    exact ih _ (preserves _ _ _ _ initial head)

end Reaches

/-- An element of two lists joined stands in the first or in the second. -/
theorem append_eq_append_cons {E : Type} {first second earlier later : List E} {x : E}
    (h : first ++ second = earlier ++ x :: later) :
    (∃ rest, first = earlier ++ x :: rest) ∨
      ∃ between, earlier = first ++ between ∧ second = between ++ x :: later := by
  rcases List.append_eq_append_iff.1 h with ⟨between, rfl, hsecond⟩ | ⟨more, rfl, hmore⟩
  · exact .inr ⟨between, rfl, hsecond⟩
  · cases more with
    | nil => exact .inr ⟨[], by simp, by simpa using hmore.symm⟩
    | cons y more =>
      obtain ⟨rfl, -⟩ := List.cons.inj hmore
      exact .inl ⟨more, rfl⟩

/-! ## Inquiries -/

namespace Inquiry

variable {σ : Type}

/-- How far an inquiry has come: for each command sent so far the reply that
came, if one did, and the replies taken up. -/
structure Progress where
  replies : List (Option Reply)
  taken : List Reply

namespace Progress

/-- Nothing sent yet. -/
def start : Progress := ⟨[], []⟩

/-- How many commands are unanswered. -/
def unanswered (p : Progress) : Nat := p.replies.count none

end Progress

/-- An inquiry goes on until all replies, or a failure, are taken up. -/
def GoesOn (q : Inquiry) (p : Progress) : Prop :=
  p.taken.length < q.commands.length ∧ ∀ reply ∈ p.taken, q.isFailure reply = false

/-- A step of an inquiry: the next command is sent, when few enough are
unanswered (a limit of zero allows one), any unanswered command is answered,
or the next reply is taken up. -/
inductive Step (w : World σ) (q : Inquiry) :
    Progress × σ → List (Happening σ) → Progress × σ → Prop where
  | send {p : Progress} {s : σ} {command : Command} (on : q.GoesOn p)
      (next : q.commands[p.replies.length]? = some command)
      (room : p.unanswered < max 1 q.limit) :
      Step w q (p, s) [.sent p.replies.length command]
        ({ p with replies := p.replies ++ [none] }, s)
  | answer {p : Progress} {s s' : σ} {place : Nat} {command : Command} {reply : Reply}
      (on : q.GoesOn p) (asked : q.commands[place]? = some command)
      (waits : p.replies[place]? = some none) (answers : w s command reply s') :
      Step w q (p, s) [.answered place command reply s']
        ({ p with replies := p.replies.set place (some reply) }, s')
  | take {p : Progress} {s : σ} {command : Command} {reply : Reply} (on : q.GoesOn p)
      (asked : q.commands[p.taken.length]? = some command)
      (came : p.replies[p.taken.length]? = some (some reply)) :
      Step w q (p, s) [.taken command reply] ({ p with taken := p.taken ++ [reply] }, s)

/-- An inquiry may end with this progress. -/
def Concludes (w : World σ) (q : Inquiry) (s : σ) (trace : List (Happening σ)) (p : Progress)
    (s' : σ) : Prop :=
  Reaches (Step w q) (.start, s) trace (p, s') ∧ ¬ q.GoesOn p

end Inquiry

/-! ## Dialogues -/

namespace Dialogue

variable {α σ τ : Type}

/-- Where a dialogue stands: before its next act, or in an inquiry. -/
inductive Stand (α : Type) where
  | talking (d : Dialogue α)
  | inquiring (q : Inquiry) (p : Inquiry.Progress) (next : List Reply → Dialogue α)

/-- A dialogue on its way, with the states of the agent and the sink. -/
structure State (α σ τ : Type) where
  stand : Stand α
  agent : σ
  sink : τ

/-- A step of a dialogue. -/
inductive Step (w : World σ) (sink : Sink τ) :
    State α σ τ → List (Happening σ) → State α σ τ → Prop where
  | ask {s s' : σ} {t : τ} {command : Command} {reply : Reply} {next : Reply → Dialogue α}
      (answers : w s command reply s') :
      Step w sink ⟨.talking (.ask command next), s, t⟩ (Happening.exchange command reply s')
        ⟨.talking (next reply), s', t⟩
  | askEach {s : σ} {t : τ} {q : Inquiry} {next : List Reply → Dialogue α} :
      Step w sink ⟨.talking (.askEach q next), s, t⟩ [] ⟨.inquiring q .start next, s, t⟩
  | inquire {s s' : σ} {t : τ} {q : Inquiry} {p p' : Inquiry.Progress}
      {trace : List (Happening σ)} {next : List Reply → Dialogue α}
      (step : q.Step w (p, s) trace (p', s')) :
      Step w sink ⟨.inquiring q p next, s, t⟩ trace ⟨.inquiring q p' next, s', t⟩
  | conclude {s : σ} {t : τ} {q : Inquiry} {p : Inquiry.Progress}
      {next : List Reply → Dialogue α} (ended : ¬ q.GoesOn p) :
      Step w sink ⟨.inquiring q p next, s, t⟩ [] ⟨.talking (next p.taken), s, t⟩
  | deliver {s : σ} {t : τ} {batch : List Metric} {next : Except SinkError Unit → Dialogue α} :
      Step w sink ⟨.talking (.deliver batch next), s, t⟩ [.delivered batch]
        ⟨.talking (next (sink t batch).1), s, (sink t batch).2⟩
  | note {s : σ} {t : τ} {notice : Notice} {next : Dialogue α} :
      Step w sink ⟨.talking (.note notice next), s, t⟩ [.noted notice] ⟨.talking next, s, t⟩
  | pass {s : σ} {t : τ} {stage : Stage} {next : Dialogue α} :
      Step w sink ⟨.talking (.pass stage next), s, t⟩ [.passed stage] ⟨.talking next, s, t⟩

/-- **A dialogue may come to this result**, with these happenings on the way
and these states of the agent and the sink at the end. -/
def Completes (w : World σ) (sink : Sink τ) (d : Dialogue α) (s : σ) (t : τ)
    (trace : List (Happening σ)) (result : α) (s' : σ) (t' : τ) : Prop :=
  Reaches (Step w sink) ⟨.talking d, s, t⟩ trace ⟨.talking (.done result), s', t'⟩

/-! ## What executions are made of -/

variable {w : World σ} {sink : Sink τ} {s s' : σ} {t t' : τ} {trace : List (Happening σ)}
variable {result : α}

theorem completes_done {r : α} :
    Completes w sink (.done r) s t trace result s' t' ↔
      trace = [] ∧ result = r ∧ s' = s ∧ t' = t := by
  constructor
  · intro h
    cases h with
    | refl => exact ⟨rfl, rfl, rfl, rfl⟩
    | next head _ => cases head
  · rintro ⟨rfl, rfl, rfl, rfl⟩
    exact .refl _

/-- A command is asked: the reply decides how it goes on. -/
theorem completes_ask {command : Command} {next : Reply → Dialogue α} :
    Completes w sink (.ask command next) s t trace result s' t' ↔
      ∃ reply s₁ rest, w s command reply s₁ ∧
        trace = Happening.exchange command reply s₁ ++ rest ∧
        Completes w sink (next reply) s₁ t rest result s' t' := by
  constructor
  · intro h
    cases h with
    | next head tail =>
      cases head with
      | ask answers => exact ⟨_, _, _, answers, rfl, tail⟩
  · rintro ⟨reply, s₁, rest, answers, rfl, tail⟩
    exact .next (.ask answers) tail

/-- An inquiry comes to its end by steps of its own, in which the sink has
no part. -/
theorem completes_inquiring {q : Inquiry} {p : Inquiry.Progress}
    {next : List Reply → Dialogue α}
    (h : Reaches (Step w sink) ⟨.inquiring q p next, s, t⟩ trace
      ⟨.talking (.done result), s', t'⟩) :
    ∃ before p' s₁ after, Reaches (Inquiry.Step w q) (p, s) before (p', s₁) ∧ ¬ q.GoesOn p' ∧
      trace = before ++ after ∧ Completes w sink (next p'.taken) s₁ t after result s' t' := by
  -- by induction on the steps, while the progress and the agent's state vary
  generalize ha : (⟨.inquiring q p next, s, t⟩ : State α σ τ) = a at h
  generalize hb : (⟨.talking (.done result), s', t'⟩ : State α σ τ) = b at h
  induction h generalizing p s with
  | refl => subst ha; simp at hb
  | next head tail ih =>
    subst ha
    cases head with
    | inquire step =>
      obtain ⟨before, p', s₁, after, steps, ended, rfl, rest⟩ := ih rfl hb
      exact ⟨_, p', s₁, after, .next step steps, ended, (List.append_assoc ..).symm, rest⟩
    | conclude ended =>
      subst hb
      exact ⟨[], p, s, _, .refl _, ended, rfl, tail⟩

theorem reaches_inquiring {q : Inquiry} {next : List Reply → Dialogue α}
    {a b : Inquiry.Progress × σ} (h : Reaches (Inquiry.Step w q) a trace b) :
    Reaches (Step w sink) ⟨.inquiring q a.1 next, a.2, t⟩ trace
      ⟨.inquiring q b.1 next, b.2, t⟩ := by
  induction h with
  | refl => exact .refl _
  | next head _ ih => exact .next (.inquire head) ih

theorem completes_askEach {q : Inquiry} {next : List Reply → Dialogue α} :
    Completes w sink (.askEach q next) s t trace result s' t' ↔
      ∃ before p s₁ after, q.Concludes w s before p s₁ ∧ trace = before ++ after ∧
        Completes w sink (next p.taken) s₁ t after result s' t' := by
  constructor
  · intro h
    cases h with
    | next head tail =>
      cases head with
      | askEach =>
        obtain ⟨before, p, s₁, after, steps, ended, rfl, rest⟩ := completes_inquiring tail
        exact ⟨before, p, s₁, after, ⟨steps, ended⟩, rfl, rest⟩
  · rintro ⟨before, p, s₁, after, ⟨steps, ended⟩, rfl, rest⟩
    change Reaches _ _ ([] ++ (before ++ ([] ++ after))) _
    exact .next .askEach ((reaches_inquiring steps).trans (.next (.conclude ended) rest))

/-- A batch is handed over: the sink decides how it goes on. -/
theorem completes_deliver {batch : List Metric} {next : Except SinkError Unit → Dialogue α} :
    Completes w sink (.deliver batch next) s t trace result s' t' ↔
      ∃ rest, trace = .delivered batch :: rest ∧
        Completes w sink (next (sink t batch).1) s (sink t batch).2 rest result s' t' := by
  constructor
  · intro h
    cases h with
    | next head tail =>
      cases head with
      | deliver => exact ⟨_, rfl, tail⟩
  · rintro ⟨rest, rfl, tail⟩
    exact .next .deliver tail

theorem completes_note {notice : Notice} {next : Dialogue α} :
    Completes w sink (.note notice next) s t trace result s' t' ↔
      ∃ rest, trace = .noted notice :: rest ∧ Completes w sink next s t rest result s' t' := by
  constructor
  · intro h
    cases h with
    | next head tail =>
      cases head with
      | note => exact ⟨_, rfl, tail⟩
  · rintro ⟨rest, rfl, tail⟩
    exact .next .note tail

theorem completes_pass {stage : Stage} {next : Dialogue α} :
    Completes w sink (.pass stage next) s t trace result s' t' ↔
      ∃ rest, trace = .passed stage :: rest ∧ Completes w sink next s t rest result s' t' := by
  constructor
  · intro h
    cases h with
    | next head tail =>
      cases head with
      | pass => exact ⟨_, rfl, tail⟩
  · rintro ⟨rest, rfl, tail⟩
    exact .next .pass tail

theorem completes_noting {notices : List Notice} {next : Dialogue α} :
    Completes w sink (noting notices next) s t trace result s' t' ↔
      ∃ rest, trace = notices.map .noted ++ rest ∧
        Completes w sink next s t rest result s' t' := by
  induction notices generalizing trace with
  | nil => simp [noting]
  | cons notice notices ih =>
    change Completes w sink (.note notice (noting notices next)) s t trace result s' t' ↔ _
    rw [completes_note]
    constructor
    · rintro ⟨rest, rfl, h⟩
      obtain ⟨rest', rfl, h'⟩ := ih.1 h
      exact ⟨rest', rfl, h'⟩
    · rintro ⟨rest, rfl, h⟩
      exact ⟨_, rfl, ih.2 ⟨rest, rfl, h⟩⟩

end Dialogue

/-! ## The run is an execution -/

namespace Inquiry

variable {σ : Type} {q : Inquiry}

/-- Every reply that came is taken up, and nothing is unanswered. -/
def Progress.settled (replies : List Reply) : Progress := ⟨replies.map some, replies⟩

/-- A command is sent, answered and its reply taken up before any other is
sent. -/
theorem reaches_one {w : World σ} {replies : List Reply} {command : Command} {reply : Reply}
    {s s' : σ} (on : q.GoesOn (.settled replies))
    (hnext : q.commands[replies.length]? = some command) (answers : w s command reply s') :
    Reaches (Step w q) (.settled replies, s)
      [.sent replies.length command, .answered replies.length command reply s',
        .taken command reply] (.settled (replies ++ [reply]), s') := by
  have hcount : (replies.map some).count none = 0 := by simp [List.count_eq_zero]
  have hroom : (Progress.settled replies).unanswered < max 1 q.limit := by
    rw [Progress.unanswered, Progress.settled, hcount]
    omega
  have hlength : (Progress.settled replies).replies.length = replies.length := List.length_map _
  have hsend : Step w q (.settled replies, s) [.sent replies.length command]
      (⟨replies.map some ++ [none], replies⟩, s) := by
    have := Step.send (w := w) (s := s) on (hlength ▸ hnext) hroom
    rwa [hlength] at this
  have hanswer : Step w q (⟨replies.map some ++ [none], replies⟩, s)
      [.answered replies.length command reply s']
      (⟨(replies ++ [reply]).map some, replies⟩, s') := by
    have hwaits : (replies.map some ++ [none])[replies.length]? = some none := by simp
    have := Step.answer (p := ⟨replies.map some ++ [none], replies⟩) on hnext hwaits answers
    simpa using this
  have htake : Step w q (⟨(replies ++ [reply]).map some, replies⟩, s') [.taken command reply]
      (.settled (replies ++ [reply]), s') :=
    .take on hnext (by simp)
  exact .next hsend (.next hanswer (.single htake))

/-- Asked in order, an inquiry comes to its end with the same replies. -/
theorem reaches_inOrder (agent : Agent σ) {rest : List Command} {replies more : List Reply}
    {s s' : σ} (hcommands : q.commands.drop replies.length = rest)
    (hgood : ∀ reply ∈ replies, q.isFailure reply = false)
    (h : inOrder agent (fun reply _ => q.isFailure reply) rest s = (more, s')) :
    ∃ trace, Reaches (Step agent.world q) (.settled replies, s) trace
        (.settled (replies ++ more), s') ∧
      ¬ q.GoesOn (.settled (replies ++ more)) ∧
      Happening.events trace = (rest.take more.length).map .asked := by
  -- by induction on the commands that are not sent yet
  induction rest generalizing replies more s with
  | nil =>
    obtain ⟨rfl, rfl⟩ : [] = more ∧ s = s' := by simpa [inOrder] using h
    refine ⟨[], ?_, ?_, rfl⟩
    · rw [List.append_nil]
      exact .refl _
    · rintro ⟨hlt, -⟩
      have := List.drop_eq_nil_iff.1 hcommands
      simp [Progress.settled] at hlt
      omega
  | cons command rest ih =>
    have hlt : replies.length < q.commands.length := by
      have := congrArg List.length hcommands
      simp at this
      omega
    have hnext : q.commands[replies.length]? = some command := by
      rw [← List.head?_drop, hcommands, List.head?_cons]
    have hone := reaches_one (w := agent.world) (s := s) (q := q) ⟨hlt, hgood⟩ hnext rfl
    rw [inOrder] at h
    cases hfail : q.isFailure (agent s command).1 with
    | true =>
      obtain ⟨rfl, rfl⟩ : [(agent s command).1] = more ∧ (agent s command).2 = s' := by
        simpa [hfail] using h
      refine ⟨_, hone, ?_, rfl⟩
      rintro ⟨-, hall⟩
      have := hall (agent s command).1 (by simp [Progress.settled])
      rw [hfail] at this
      exact Bool.noConfusion this
    | false =>
      obtain ⟨more, rfl, hmore⟩ : ∃ more',  (agent s command).1 :: more' = more ∧
          inOrder agent (fun reply _ => q.isFailure reply) rest (agent s command).2 =
            (more', s') := by
        simpa [hfail, Prod.ext_iff] using h
      have hdrop : q.commands.drop (replies ++ [(agent s command).1]).length = rest := by
        rw [List.length_append, ← List.drop_drop, hcommands]
        rfl
      have hgood' : ∀ reply ∈ replies ++ [(agent s command).1], q.isFailure reply = false := by
        intro reply hmem
        rcases List.mem_append.1 hmem with hmem | hmem
        · exact hgood reply hmem
        · rw [List.mem_singleton.1 hmem]
          exact hfail
      obtain ⟨trace, hsteps, hover, hevents⟩ := ih hdrop hgood' hmore
      rw [List.append_assoc] at hsteps hover
      refine ⟨_, hone.trans hsteps, hover, ?_⟩
      change .asked command :: Happening.events trace = _
      rw [hevents]
      rfl

/-- **The answers to an inquiry are those of one of its executions.** -/
theorem concludes_answers (agent : Agent σ) (q : Inquiry) (s : σ) :
    ∃ trace, q.Concludes agent.world s trace (.settled (q.answers agent s).1)
        (q.answers agent s).2 ∧
      Happening.events trace = (q.asked (q.answers agent s).1).map .asked := by
  have hnone : q.commands.drop ([] : List Reply).length = q.commands := rfl
  obtain ⟨trace, hsteps, hover, hevents⟩ := reaches_inOrder (s := s) agent hnone (by simp) rfl
  exact ⟨trace, ⟨hsteps, hover⟩, hevents⟩

end Inquiry

namespace Dialogue

variable {α σ τ : Type}

/-- **The run of a dialogue is one of its executions**: with the agent as the
world, the same result and states are reached, and the same events seen. -/
theorem run_completes (agent : Agent σ) (sink : Sink τ) (d : Dialogue α) (s : σ) (t : τ) :
    ∃ trace, Completes agent.world sink d s t trace (d.run agent sink s t).result
        (d.run agent sink s t).agent (d.run agent sink s t).sink ∧
      Happening.events trace = (d.run agent sink s t).events := by
  induction d generalizing s t with
  | done result => exact ⟨[], .refl _, rfl⟩
  | ask command next ih =>
    obtain ⟨trace, hrest, hevents⟩ := ih (agent s command).1 (agent s command).2 t
    exact ⟨_, completes_ask.2 ⟨_, _, trace, rfl, rfl, hrest⟩,
      congrArg (List.cons (Event.asked command)) hevents⟩
  | askEach q next ih =>
    obtain ⟨before, hq, hasked⟩ := q.concludes_answers agent s
    obtain ⟨after, hrest, hevents⟩ := ih (q.answers agent s).1 (q.answers agent s).2 t
    refine ⟨_, completes_askEach.2 ⟨before, _, _, after, hq, rfl, hrest⟩, ?_⟩
    rw [Happening.events, List.filterMap_append]
    exact congrArg₂ (· ++ ·) hasked hevents
  | deliver batch next ih =>
    obtain ⟨trace, hrest, hevents⟩ := ih (sink t batch).1 s (sink t batch).2
    exact ⟨_, completes_deliver.2 ⟨trace, rfl, hrest⟩,
      congrArg (List.cons (Event.delivered batch)) hevents⟩
  | note notice next ih =>
    obtain ⟨trace, hrest, hevents⟩ := ih s t
    exact ⟨_, completes_note.2 ⟨trace, rfl, hrest⟩,
      congrArg (List.cons (Event.noted notice)) hevents⟩
  | pass stage next ih =>
    obtain ⟨trace, hrest, hevents⟩ := ih s t
    exact ⟨_, completes_pass.2 ⟨trace, rfl, hrest⟩,
      congrArg (List.cons (Event.passed stage)) hevents⟩

end Dialogue

end KeaGauge
