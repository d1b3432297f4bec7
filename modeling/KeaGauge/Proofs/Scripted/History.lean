import KeaGauge.Proofs.Json.View
import KeaGauge.Proofs.Scripted.Delivery
/-!
# Histories of scripted agents

A scripted agent is given answers for its queue and answers to register, and
it gets requests, in any order (`Operation`). Every operation moves at most the
front of the queue (`taken?_append_queue`), so throughout a history the answers
that were handed out and those that are left are those that were put in
(`handedOut_append_queue`). What is found under a name is what the history
registered there last (`lookup_after_iff`), and a request takes an answer of
the queue when there is one and nothing is registered for it. All this is of
bodies that are not too long; any other changes nothing (`perform_of_tooLong`)
and is told so (`Script.queue_law`).
-/

namespace KeaGauge.Scripted

open Json (Value IsDocument)
open Kea (Command)

/-! ## What is done with an agent -/

/-- What may be done with a scripted agent. A request is given by the bytes of
its body. -/
inductive Operation where
  | enqueue (answer : Answer)
  | register (statistic : String) (answer : Value)
  | request (body : List UInt8)

namespace Operation

/-- The answer put into the queue. -/
def enqueued? : Operation → Option Answer
  | enqueue answer => some answer
  | _ => none

/-- The body of a request. -/
def body? : Operation → Option (List UInt8)
  | request body => some body
  | _ => none

/-- The answers that a history puts into the queue. -/
def enqueued (history : List Operation) : List Answer := history.filterMap enqueued?

/-- The bodies that come in a history. -/
def bodies (history : List Operation) : List (List UInt8) := history.filterMap body?

/-- Those of them that are not too long. -/
def admitted (history : List Operation) : List (List UInt8) :=
  (bodies history).filter fun body => body.length ≤ maxBody

theorem admitted_append (earlier later : List Operation) :
    admitted (earlier ++ later) = admitted earlier ++ admitted later := by
  simp only [admitted, bodies, List.filterMap_append, List.filter_append]

/-- A body that is not too long is one of them, -/
theorem admitted_of_fits {body : List UInt8} (hfits : body.length ≤ maxBody) :
    admitted [request body] = [body] :=
  List.filter_cons_of_pos (decide_eq_true hfits)

/-- and any other is not. -/
theorem admitted_of_tooLong {body : List UInt8} (hlong : maxBody < body.length) :
    admitted [request body] = [] :=
  List.filter_cons_of_neg (by simpa using hlong)

/-- **What a history registered last** under a name. -/
def RegisteredLast (history : List Operation) (statistic : String) (answer : Value) : Prop :=
  ∃ earlier later, history = earlier ++ register statistic answer :: later ∧
    ∀ other, register statistic other ∉ later

/-- An operation at the end is what is registered last under its name; under
every other name the history is as it was. -/
theorem registeredLast_concat {history : List Operation} {operation : Operation}
    {statistic : String} {answer : Value} :
    RegisteredLast (history ++ [operation]) statistic answer ↔
      operation = register statistic answer ∨
        RegisteredLast history statistic answer ∧
          ∀ other, operation ≠ register statistic other := by
  constructor
  · rintro ⟨earlier, later, hsplit, hlast⟩
    rcases List.eq_nil_or_concat later with rfl | ⟨front, last, rfl⟩
    · exact .inl (List.singleton_inj.1 (List.append_inj' hsplit rfl).2)
    · -- the operation is the last of what comes later
      rw [List.concat_eq_append, ← List.cons_append, ← List.append_assoc] at hsplit
      obtain ⟨hhistory, hsame⟩ := List.append_inj' hsplit rfl
      obtain rfl := List.singleton_inj.1 hsame
      exact .inr ⟨⟨earlier, front, hhistory, fun other h => hlast other (by simp [h])⟩,
        fun other h => hlast other (by simp [h])⟩
  · rintro (rfl | ⟨⟨earlier, later, rfl, hlast⟩, hother⟩)
    · exact ⟨history, [], rfl, fun _ => List.not_mem_nil⟩
    · refine ⟨earlier, later ++ [operation], by simp, fun other h => ?_⟩
      rcases List.mem_append.1 h with h | h
      · exact hlast other h
      · exact hother other (List.mem_singleton.1 h).symm

/-- Something is registered last where anything is registered. -/
theorem exists_registeredLast_iff {history : List Operation} {statistic : String} :
    (∃ answer, RegisteredLast history statistic answer) ↔
      ∃ answer, register statistic answer ∈ history := by
  constructor
  · rintro ⟨answer, earlier, later, rfl, -⟩
    exact ⟨answer, by simp⟩
  · rintro ⟨answer, hmem⟩
    induction history using List.reverseRecOn with
    | nil => exact absurd hmem List.not_mem_nil
    | append_singleton history operation ih =>
      by_cases h : ∃ other, operation = register statistic other
      · obtain ⟨other, rfl⟩ := h
        exact ⟨other, registeredLast_concat.2 (.inl rfl)⟩
      · rw [not_exists] at h
        rcases List.mem_append.1 hmem with hmem | hmem
        · obtain ⟨last, hlast⟩ := ih hmem
          exact ⟨last, registeredLast_concat.2 (.inr ⟨hlast, h⟩)⟩
        · exact absurd (List.mem_singleton.1 hmem).symm (h answer)

end Operation

/-! ## What a request is -/

/-- **The request that a body is**: the JSON document that its bytes spell, and
null when they spell none. -/
inductive IsRequest (body : List UInt8) : Value → Prop where
  | document {content : String} {request : Value} (bytes : body = content.toUTF8.toList)
      (spells : IsDocument content request) : IsRequest body request
  | other (none : ∀ content request, body = content.toUTF8.toList →
      ¬ IsDocument content request) : IsRequest body .null

/-- **A request for a statistic** by its name. -/
def AsksFor (request : Value) (statistic : String) : Prop :=
  request.get? "command" = some (.string "statistic-get") ∧
    ∃ arguments, request.get? "arguments" = some arguments ∧
      arguments.get? "name" = some (.string statistic)

/-- Whether a history registered an answer for a request. -/
def IsRegistered (history : List Operation) (request : Value) : Prop :=
  ∃ statistic answer, AsksFor request statistic ∧ .register statistic answer ∈ history

namespace Script

theorem parseBytes_eq_some_iff {body : List UInt8} {request : Value} :
    (Text.decodeUtf8? body).bind Json.parseChars? = some request ↔
      ∃ content : String, body = content.toUTF8.toList ∧ IsDocument content request := by
  have hparse : ∀ cs, Json.parseChars? cs = Json.parse? (String.ofList cs) := fun cs => by
    rw [Json.parse?, String.toList_ofList]
  simp only [Option.bind_eq_some_iff, Text.decodeUtf8?_eq_some_iff, hparse,
    Json.parse?_eq_some_iff]
  constructor
  · rintro ⟨cs, hbody, hdocument⟩
    exact ⟨_, hbody, hdocument⟩
  · rintro ⟨content, hbody, hdocument⟩
    exact ⟨content.toList, by rwa [String.ofList_toList], by rwa [String.ofList_toList]⟩

/-- **Bodies are read as the requests that they are.** -/
theorem requestOfBytes_eq_iff {body : List UInt8} {request : Value} :
    requestOfBytes body = request ↔ IsRequest body request := by
  unfold requestOfBytes
  constructor
  · rintro rfl
    cases h : (Text.decodeUtf8? body).bind Json.parseChars? with
    | some request =>
      obtain ⟨content, hbody, hdocument⟩ := parseBytes_eq_some_iff.1 h
      exact .document hbody hdocument
    | none =>
      refine .other fun content request hbody hdocument => ?_
      rw [parseBytes_eq_some_iff.2 ⟨content, hbody, hdocument⟩] at h
      exact absurd h (by simp)
  · rintro (⟨hbody, hdocument⟩ | hnone)
    · rw [parseBytes_eq_some_iff.2 ⟨_, hbody, hdocument⟩, Option.getD_some]
    · have hnothing : (Text.decodeUtf8? body).bind Json.parseChars? = none := by
        refine Option.eq_none_iff_forall_ne_some.2 fun request h => ?_
        obtain ⟨content, hbody, hdocument⟩ := parseBytes_eq_some_iff.1 h
        exact hnone content request hbody hdocument
      rw [hnothing, Option.getD_none]

theorem isRequest_requestOfBytes (body : List UInt8) : IsRequest body (requestOfBytes body) :=
  requestOfBytes_eq_iff.1 rfl

/-- The statistic asked for is found just in requests for it. -/
theorem statisticOf?_eq_some_iff {request : Value} {statistic : String} :
    statisticOf? request = some statistic ↔ AsksFor request statistic := by
  have hcommand : commandOf request = "statistic-get" ↔
      request.get? "command" = some (.string "statistic-get") := by
    rw [commandOf, ← Json.found_iff fun _ _ => Value.text?_eq_some_iff]
    refine ⟨?_, .present⟩
    generalize hname : "statistic-get" = name
    rintro (found | _)
    · exact found
    · exact absurd hname (by decide)
  unfold statisticOf? AsksFor
  split
  · next h => simp [hcommand.1 h, Option.bind_eq_some_iff, Value.text?_eq_some_iff]
  · next h => simp [mt hcommand.2 h]

/-! ## How a request is served -/

section Serving

variable {s : Script} {request : Value}

/-- A request for a statistic that is registered gets what is registered. -/
theorem receive_of_registered {answer : Value} (h : s.registeredFor? request = some answer) :
    s.receive request =
      ((Answer.json answer).sent, { s with requests := s.requests ++ [request] }) := by
  simp [receive, take, h]

/-- Any other takes the front of the queue. -/
theorem receive_of_queue {answer : Answer} {rest : List Answer}
    (h : s.registeredFor? request = none) (hqueue : s.queue = answer :: rest) :
    s.receive request =
      (answer.sent, { s with queue := rest, requests := s.requests ++ [request] }) := by
  simp [receive, take, h, hqueue]

/-- With an empty queue nothing is left for it. -/
theorem receive_of_nothing (h : s.registeredFor? request = none) (hqueue : s.queue = []) :
    s.receive request = (unscripted, { s with requests := s.requests ++ [request] }) := by
  obtain ⟨queue, registered, requests⟩ := s
  obtain rfl : queue = [] := hqueue
  simp [receive, take, h]

end Serving

/-! ## One operation after the other -/

/-- The script after an operation. -/
def perform (s : Script) : Operation → Script
  | .enqueue answer => s.enqueue answer
  | .register statistic answer => s.register statistic answer
  | .request body => (s.post body).2

/-- What is sent back for a body. -/
def reply (s : Script) (body : List UInt8) : Sent := (s.post body).1

/-- The script after a history. -/
def after (s : Script) (history : List Operation) : Script := history.foldl perform s

/-- The answer that an operation takes off the queue: the front, when fewer are
left. -/
def taken? (s : Script) (operation : Operation) : Option Answer :=
  if (s.perform operation).pending < s.pending then s.queue.head? else none

/-- **The answers that a history takes off the queue**, in their order. -/
def handedOut (s : Script) : List Operation → List Answer
  | [] => []
  | operation :: later => (s.taken? operation).toList ++ (s.perform operation).handedOut later

section Steps

variable {s : Script} {body : List UInt8} {request : Value}

theorem after_concat (s : Script) (history : List Operation) (operation : Operation) :
    s.after (history ++ [operation]) = (s.after history).perform operation := by
  rw [after, List.foldl_append]
  rfl

/-- A body that is not too long is received as a request, -/
theorem post_of_fits (hfits : body.length ≤ maxBody) (s : Script) :
    s.post body = s.receive (requestOfBytes body) :=
  if_pos hfits

/-- and any other is turned away. -/
theorem post_of_tooLong (hlong : maxBody < body.length) (s : Script) :
    s.post body = (tooLong, s) :=
  if_neg (Nat.not_le_of_lt hlong)

/-- **What is turned away changes nothing.** -/
theorem perform_of_tooLong (hlong : maxBody < body.length) (s : Script) :
    s.perform (.request body) = s := by
  rw [perform, post_of_tooLong hlong]

theorem taken?_of_tooLong (hlong : maxBody < body.length) (s : Script) :
    s.taken? (.request body) = none := by
  simp [taken?, perform_of_tooLong hlong]

/-- A request for which something is registered takes nothing. -/
theorem taken?_of_registered (hfits : body.length ≤ maxBody) {answer : Value}
    (h : s.registeredFor? (requestOfBytes body) = some answer) :
    s.taken? (.request body) = none := by
  simp [taken?, perform, post_of_fits hfits, receive_of_registered h, pending]

theorem taken?_of_queue (hfits : body.length ≤ maxBody) {answer : Answer} {rest : List Answer}
    (h : s.registeredFor? (requestOfBytes body) = none) (hqueue : s.queue = answer :: rest) :
    s.taken? (.request body) = some answer := by
  simp [taken?, perform, post_of_fits hfits, receive_of_queue h hqueue, pending, hqueue]

theorem taken?_of_nothing (hfits : body.length ≤ maxBody)
    (h : s.registeredFor? (requestOfBytes body) = none) (hqueue : s.queue = []) :
    s.taken? (.request body) = none := by
  simp [taken?, perform, post_of_fits hfits, receive_of_nothing h hqueue, pending]

/-- **One step**: what an operation takes is the front of the queue, and what
it puts in goes behind. -/
theorem taken?_append_queue (s : Script) (operation : Operation) :
    (s.taken? operation).toList ++ (s.perform operation).queue =
      s.queue ++ operation.enqueued?.toList := by
  cases operation with
  | enqueue answer => simp [taken?, perform, enqueue, pending, Operation.enqueued?]
  | register statistic answer => simp [taken?, perform, register, pending, Operation.enqueued?]
  | request body =>
    rcases Nat.lt_or_ge maxBody body.length with hlong | hfits
    · simp [taken?_of_tooLong hlong, perform_of_tooLong hlong, Operation.enqueued?]
    have hpost := post_of_fits hfits s
    cases h : s.registeredFor? (requestOfBytes body) with
    | some answer =>
      simp [taken?_of_registered hfits h, perform, hpost, receive_of_registered h,
        Operation.enqueued?]
    | none =>
      cases hqueue : s.queue with
      | cons answer rest =>
        simp [taken?_of_queue hfits h hqueue, perform, hpost, receive_of_queue h hqueue,
          Operation.enqueued?]
      | nil =>
        simp [taken?_of_nothing hfits h hqueue, perform, hpost, receive_of_nothing h hqueue,
          hqueue, Operation.enqueued?]

/-- **Nothing is lost or handed out twice**: what a history hands out and what
it leaves is what was there and what it put in, in this order. -/
theorem handedOut_append_queue (s : Script) (history : List Operation) :
    s.handedOut history ++ (s.after history).queue = s.queue ++ Operation.enqueued history := by
  induction history generalizing s with
  | nil => simp [handedOut, after, Operation.enqueued]
  | cons operation later ih =>
    have hlater : (s.perform operation).handedOut later ++ (s.after (operation :: later)).queue =
        (s.perform operation).queue ++ Operation.enqueued later := ih (s.perform operation)
    have henqueued : Operation.enqueued (operation :: later) =
        operation.enqueued?.toList ++ Operation.enqueued later := by
      unfold Operation.enqueued
      cases h : operation.enqueued? <;> simp [h]
    rw [handedOut, List.append_assoc, hlater, ← List.append_assoc, taken?_append_queue,
      List.append_assoc, henqueued]

/-- An operation keeps the requests that came before. -/
theorem requests_perform (s : Script) (operation : Operation) :
    (s.perform operation).requests =
      s.requests ++ (Operation.admitted [operation]).map requestOfBytes := by
  cases operation with
  | enqueue answer => exact (List.append_nil _).symm
  | register statistic answer => exact (List.append_nil _).symm
  | request body =>
    rcases Nat.lt_or_ge maxBody body.length with hlong | hfits
    · rw [perform_of_tooLong hlong, Operation.admitted_of_tooLong hlong, List.map_nil,
        List.append_nil]
    · rw [perform, post_of_fits hfits, Operation.admitted_of_fits hfits]
      rfl

/-- **Every body that is not too long is kept** as a request, in the order in
which they came. -/
theorem requests_after (s : Script) (history : List Operation) :
    (s.after history).requests =
      s.requests ++ (Operation.admitted history).map requestOfBytes := by
  induction history generalizing s with
  | nil => simp [after, Operation.admitted, Operation.bodies]
  | cons operation later ih =>
    have hlater : (s.after (operation :: later)).requests =
        (s.perform operation).requests ++ (Operation.admitted later).map requestOfBytes :=
      ih (s.perform operation)
    have hadmitted : Operation.admitted (operation :: later) =
        Operation.admitted [operation] ++ Operation.admitted later :=
      Operation.admitted_append [operation] later
    rw [hlater, requests_perform, List.append_assoc, hadmitted, List.map_append]

/-- A body registers nothing. -/
theorem registered_perform_request (s : Script) (body : List UInt8) :
    (s.perform (.request body)).registered = s.registered := by
  rcases Nat.lt_or_ge maxBody body.length with hlong | hfits
  · rw [perform_of_tooLong hlong]
  · rw [perform, post_of_fits hfits]
    rfl

/-- **What is found under a name** is what was registered there last. -/
theorem lookup_after_iff {history : List Operation} {statistic : String} {answer : Value} :
    (empty.after history).registered.lookup statistic = some answer ↔
      Operation.RegisteredLast history statistic answer := by
  induction history using List.reverseRecOn with
  | nil =>
    refine ⟨fun h => absurd h (by simp [after, empty]), ?_⟩
    rintro ⟨earlier, later, hsplit, -⟩
    exact absurd hsplit (by simp)
  | append_singleton history operation ih =>
    rw [after_concat, Operation.registeredLast_concat, ← ih]
    cases operation with
    | enqueue other => simp [perform, enqueue]
    | request body => simp [registered_perform_request]
    | register name other =>
      by_cases hname : statistic = name
      · subst hname
        simp [perform, register]
      · simp [perform, register, List.lookup_cons, beq_false_of_ne hname, Ne.symm hname]

end Steps

/-! ## The law of the queue -/

section Law

variable {history : List Operation} {request : Value}

/-- What is registered for a request is what was registered last under the name
it asks for. -/
theorem registeredFor?_after_iff {answer : Value} :
    (empty.after history).registeredFor? request = some answer ↔
      ∃ statistic, AsksFor request statistic ∧
        Operation.RegisteredLast history statistic answer := by
  simp only [registeredFor?, Option.bind_eq_some_iff, statisticOf?_eq_some_iff, lookup_after_iff]

theorem isRegistered_iff :
    IsRegistered history request ↔
      ∃ answer, (empty.after history).registeredFor? request = some answer := by
  simp only [registeredFor?_after_iff]
  constructor
  · rintro ⟨statistic, answer, hasks, hmem⟩
    obtain ⟨last, hlast⟩ := Operation.exists_registeredLast_iff.2 ⟨answer, hmem⟩
    exact ⟨last, statistic, hasks, hlast⟩
  · rintro ⟨last, statistic, hasks, hlast⟩
    obtain ⟨answer, hmem⟩ := Operation.exists_registeredLast_iff.1 ⟨last, hlast⟩
    exact ⟨statistic, answer, hasks, hmem⟩

/-- **How a request is served** after a history that led to a script. -/
structure Serves (history : List Operation) (s : Script) (body : List UInt8)
    (request : Value) : Prop where
  /-- It takes an answer of the queue when there is one and nothing is
  registered for it. -/
  takes_iff : (∃ answer, s.taken? (.request body) = some answer) ↔
    s.queue ≠ [] ∧ ¬ IsRegistered history request
  /-- What it takes is what it gets. -/
  taken : ∀ answer, s.taken? (.request body) = some answer → s.reply body = answer.sent
  /-- Of a registered statistic it gets what was registered last. -/
  registered : ∀ statistic answer, AsksFor request statistic →
    Operation.RegisteredLast history statistic answer →
      s.reply body = (Answer.json answer).sent ∧
        s.perform (.request body) = { s with requests := s.requests ++ [request] }
  /-- When there is nothing for it, it gets an error and changes no script. -/
  nothing : s.queue = [] → ¬ IsRegistered history request →
    s.reply body = ⟨500, false, "no scripted answer", 0⟩ ∧
      s.perform (.request body) = { s with requests := s.requests ++ [request] }

/-- **Every request is served so.** -/
theorem serves_requestOfBytes (history : List Operation) {body : List UInt8}
    (hfits : body.length ≤ maxBody) :
    Serves history (empty.after history) body (requestOfBytes body) := by
  have hpost := post_of_fits hfits (empty.after history)
  cases hregistered : (empty.after history).registeredFor? (requestOfBytes body) with
  | some answer =>
    have his : IsRegistered history (requestOfBytes body) :=
      isRegistered_iff.2 ⟨answer, hregistered⟩
    have htaken := taken?_of_registered hfits hregistered
    refine ⟨by simp [htaken, his], fun _ h => absurd (htaken.symm.trans h) (by simp), ?_,
      fun _ h => absurd his h⟩
    intro statistic other hasks hlast
    obtain rfl : answer = other := Option.some.inj
      (hregistered.symm.trans (registeredFor?_after_iff.2 ⟨statistic, hasks, hlast⟩))
    rw [reply, perform, hpost, receive_of_registered hregistered]
    exact ⟨rfl, rfl⟩
  | none =>
    have hnot : ¬ IsRegistered history (requestOfBytes body) := by
      rw [isRegistered_iff, hregistered]
      simp
    have hnever : ∀ statistic answer, AsksFor (requestOfBytes body) statistic →
        ¬ Operation.RegisteredLast history statistic answer := fun statistic answer hasks hlast => by
      rw [registeredFor?_after_iff.2 ⟨statistic, hasks, hlast⟩] at hregistered
      exact absurd hregistered (by simp)
    cases hqueue : (empty.after history).queue with
    | cons front rest =>
      have htaken := taken?_of_queue hfits hregistered hqueue
      refine ⟨by simp [htaken, hqueue, hnot], fun answer h => ?_,
        fun _ _ hasks hlast => absurd hlast (hnever _ _ hasks), fun h => ?_⟩
      · obtain rfl := Option.some.inj (htaken.symm.trans h)
        rw [reply, hpost, receive_of_queue hregistered hqueue]
      · exact absurd (hqueue.symm.trans h) (List.cons_ne_nil _ _)
    | nil =>
      have htaken := taken?_of_nothing hfits hregistered hqueue
      refine ⟨by simp [htaken, hqueue], fun _ h => absurd (htaken.symm.trans h) (by simp),
        fun _ _ hasks hlast => absurd hlast (hnever _ _ hasks), fun _ _ => ?_⟩
      rw [reply, perform, hpost, receive_of_nothing hregistered hqueue]
      exact ⟨rfl, rfl⟩

/-- **The law of the queue.** At any time, after any history, the answers that
were handed out of the queue and those that are left in it are those that were
put in, in order; the requests kept are the bodies that came and were not too
long, each as what it is. The next body is served as `Serves` says unless it is
too long; then its sender is told so, and the script stays as it is. -/
theorem queue_law (history : List Operation) :
    empty.handedOut history ++ (empty.after history).queue = Operation.enqueued history ∧
      List.Forall₂ IsRequest (Operation.admitted history) (empty.after history).requests ∧
      (∀ body request, body.length ≤ maxBody → IsRequest body request →
        Serves history (empty.after history) body request) ∧
      ∀ body : List UInt8, maxBody < body.length →
        (empty.after history).reply body = tooLong ∧
          (empty.after history).perform (.request body) = empty.after history := by
  refine ⟨handedOut_append_queue empty history, ?_, fun body request hfits hrequest => ?_,
    fun body hlong => ⟨?_, perform_of_tooLong hlong _⟩⟩
  · rw [requests_after, empty, List.nil_append, List.forall₂_map_right_iff]
    exact List.forall₂_same.2 fun body _ => isRequest_requestOfBytes body
  · rw [← requestOfBytes_eq_iff.2 hrequest]
    exact serves_requestOfBytes history hfits
  · rw [reply, post_of_tooLong hlong]

end Law

/-! ## An answer registered anew -/

namespace RegisteredAnew

/-- An answer is put into the queue, and one for a statistic is registered and
replaced. -/
def history : List Operation :=
  [.enqueue (.raw "first"), .register "s" (.int 1), .register "s" (.int 2)]

/-- A request for the statistic. -/
def statisticGet : Command := .statisticGet .v4 "s"

/-- Its body. -/
def body : List UInt8 := statisticGet.body.toUTF8.toList

end RegisteredAnew

/-- A body that is too long by one byte. -/
def tooLongBody : List UInt8 := List.replicate (maxBody + 1) 0x61

theorem maxBody_lt_tooLongBody : maxBody < tooLongBody.length := by
  rw [tooLongBody, List.length_replicate]
  exact Nat.lt_succ_self _

open RegisteredAnew in
/-- It gets the answer that was registered last, and the queue stays. A body
that is too long gets nothing of the script. -/
theorem queue_law_registered_anew :
    body.length ≤ maxBody ∧ IsRequest body statisticGet.received ∧
      AsksFor statisticGet.received "s" ∧
      Operation.RegisteredLast history "s" (.int 2) ∧
      (empty.after history).reply body = (Answer.json (.int 2)).sent ∧
      ((empty.after history).perform (.request body)).queue = [.raw "first"] ∧
      maxBody < tooLongBody.length ∧ (empty.after history).reply tooLongBody = tooLong := by
  have hfits : body.length ≤ maxBody := Command.fits_statisticGet .v4 (by decide)
  have hrequest : IsRequest body statisticGet.received :=
    requestOfBytes_eq_iff.1 (Command.sendable_statisticGet .v4 "s").requestOfBytes
  have hasks : AsksFor statisticGet.received "s" := ⟨rfl, _, rfl, rfl⟩
  have hlast : Operation.RegisteredLast history "s" (.int 2) :=
    ⟨[.enqueue (.raw "first"), .register "s" (.int 1)], [], rfl, fun _ => List.not_mem_nil⟩
  have hlong := maxBody_lt_tooLongBody
  generalize tooLongBody = other at hlong ⊢
  obtain ⟨-, -, hserves, hturned⟩ := queue_law history
  obtain ⟨hreply, hperform⟩ := (hserves body _ hfits hrequest).registered "s" (.int 2) hasks hlast
  exact ⟨hfits, hrequest, hasks, hlast, hreply, congrArg queue hperform, hlong,
    (hturned other hlong).1⟩

/-! ## A body that is too long -/

/-- With an answer in the queue and nothing registered, a body that is too long
takes no answer and is not kept. -/
theorem lost_of_tooLong {body : List UInt8} (hlong : maxBody < body.length) :
    (empty.after [.enqueue (.raw "first"), .request body]).requests = [] ∧
      (empty.after [.enqueue (.raw "first"), .request body]).queue = [.raw "first"] ∧
      (empty.after [.enqueue (.raw "first")]).reply body = tooLong := by
  have hsame : empty.after [.enqueue (.raw "first"), .request body] =
      empty.after [.enqueue (.raw "first")] := perform_of_tooLong hlong _
  refine ⟨(congrArg requests hsame).trans rfl, (congrArg queue hsame).trans rfl, ?_⟩
  rw [reply, post_of_tooLong hlong]

/-- **Not every body becomes a request**, and not every body takes an answer of
the queue for which there is one. -/
theorem tooLongBody_lost :
    Operation.bodies [.enqueue (.raw "first"), .request tooLongBody] = [tooLongBody] ∧
      (empty.after [.enqueue (.raw "first"), .request tooLongBody]).requests = [] ∧
      (empty.after [.enqueue (.raw "first"), .request tooLongBody]).queue = [.raw "first"] ∧
      (empty.after [.enqueue (.raw "first")]).reply tooLongBody = tooLong :=
  ⟨rfl, lost_of_tooLong maxBody_lt_tooLongBody⟩

end Script

end KeaGauge.Scripted
