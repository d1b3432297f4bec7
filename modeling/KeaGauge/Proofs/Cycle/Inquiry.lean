import KeaGauge.Proofs.Cycle.Execution
import Mathlib.Data.List.Infix
/-!
# Inquiries under way

Whatever order the answers of an inquiry come in, they are taken up in the
order of its commands. `Coherent` is the invariant: it relates the progress
to what happened so far, and every step keeps it (`Coherent.step`), as it
keeps to the limit (`Step.unanswered_le`). So an inquiry that ended took up
every reply, or the replies up to the first failure (`Concludes.taken_cases`),
and each of them came under the place at which it was taken up
(`Concludes.answered_iff`).
-/

namespace KeaGauge.Inquiry

open Kea (Command)

variable {σ : Type} {w : World σ} {q : Inquiry} {s s' : σ} {p p' : Progress}
variable {trace : List (Happening σ)}

/-- A reply came to the command at a place. -/
def Answered (trace : List (Happening σ)) (place : Nat) (command : Command) (reply : Reply) :
    Prop :=
  ∃ s, .answered place command reply s ∈ trace

/-- **What holds of an inquiry under way**, given what happened so far. -/
structure Coherent (q : Inquiry) (trace : List (Happening σ)) (p : Progress) : Prop where
  length_le : p.replies.length ≤ q.commands.length
  /-- Replies are taken up in order, none before it came. -/
  taken_came : p.taken.map some <+: p.replies
  /-- Nothing is taken up after a failure. -/
  failed_last : ∀ reply ∈ p.taken.dropLast, q.isFailure reply = false
  answered_iff : ∀ place command reply, Answered trace place command reply ↔
    q.commands[place]? = some command ∧ p.replies[place]? = some (some reply)
  takings_eq : Happening.takings trace = q.commands.zip p.taken


/-! ## Lists that grow at one end -/

theorem map_some_append_came {replies : List (Option Reply)} {taken : List Reply} {reply : Reply}
    (h : taken.map some <+: replies) (hcame : replies[taken.length]? = some (some reply)) :
    (taken ++ [reply]).map some <+: replies := by
  obtain ⟨rest, rfl⟩ := h
  cases rest with
  | nil => simp at hcame
  | cons first rest =>
    have : first = some reply := by simpa using hcame
    exact ⟨rest, by simp [this]⟩

theorem zip_concat {commands : List Command} {taken : List Reply} {command : Command}
    {reply : Reply} (h : commands[taken.length]? = some command) :
    commands.zip (taken ++ [reply]) = commands.zip taken ++ [(command, reply)] := by
  induction taken generalizing commands with
  | nil =>
    cases commands with
    | nil => simp at h
    | cons first rest =>
      obtain rfl : first = command := by simpa using h
      simp
  | cons r taken ih =>
    cases commands with
    | nil => simp at h
    | cons first rest =>
      rw [List.cons_append, List.zip_cons_cons, List.zip_cons_cons, ih (by simpa using h)]
      rfl

/-! ## The invariant -/

theorem Coherent.start (q : Inquiry) : q.Coherent ([] : List (Happening σ)) .start := by
  refine ⟨Nat.zero_le _, List.prefix_rfl, by simp [Progress.start], ?_, by
    simp [Progress.start, Happening.takings]⟩
  intro place command reply
  simp [Answered, Progress.start]

theorem answered_append {more : List (Happening σ)} {place : Nat} {command : Command}
    {reply : Reply} :
    Answered (trace ++ more) place command reply ↔
      Answered trace place command reply ∨ Answered more place command reply := by
  simp only [Answered, List.mem_append, exists_or]

theorem Coherent.send {command : Command} (h : q.Coherent trace p)
    (hnext : q.commands[p.replies.length]? = some command) :
    q.Coherent (trace ++ [.sent p.replies.length command])
      { p with replies := p.replies ++ [none] } := by
  refine ⟨?_, h.taken_came.trans (List.prefix_append _ _), h.failed_last, ?_, ?_⟩
  · have := (List.getElem?_eq_some_iff.1 hnext).1
    simp only [List.length_append, List.length_singleton]
    omega
  · intro place asked reply
    rw [answered_append, h.answered_iff]
    have hsent :
        ¬ Answered [Happening.sent (σ := σ) p.replies.length command] place asked reply := by
      rintro ⟨s, hmem⟩
      simp at hmem
    -- the new place is unanswered, the others are as they were
    have hold : (p.replies ++ [none])[place]? = some (some reply) ↔
        p.replies[place]? = some (some reply) := by
      rw [List.getElem?_append]
      split
      · rfl
      · next hge =>
        rw [List.getElem?_eq_none (by omega : p.replies.length ≤ place)]
        simp [List.getElem?_singleton]
    rw [hold]
    exact or_iff_left hsent
  · simp [Happening.takings, ← h.takings_eq]

theorem Coherent.answer {place : Nat} {command : Command} {reply : Reply}
    (h : q.Coherent trace p) (hasked : q.commands[place]? = some command)
    (hwaits : p.replies[place]? = some none) :
    q.Coherent (trace ++ [.answered place command reply s'])
      { p with replies := p.replies.set place (some reply) } := by
  have hlt : place < p.replies.length := (List.getElem?_eq_some_iff.1 hwaits).1
  refine ⟨by simpa using h.length_le, ?_, h.failed_last, ?_, ?_⟩
  · -- What is unanswered lies behind the replies taken up.
    obtain ⟨rest, hrest⟩ := h.taken_came
    have hge : (p.taken.map some).length ≤ place := by
      by_contra hlt'
      rw [← hrest, List.getElem?_append_left (by omega)] at hwaits
      simp [List.getElem?_map] at hwaits
    refine ⟨rest.set (place - (p.taken.map some).length) (some reply), ?_⟩
    rw [← List.set_append_right _ _ hge, hrest]
  · intro k asked r
    rw [answered_append, h.answered_iff, List.getElem?_set]
    have hnew : Answered [Happening.answered place command reply s'] k asked r ↔
        k = place ∧ asked = command ∧ r = reply := by
      simp [Answered]
    rw [hnew]
    -- nothing was answered at this place before, and other places keep their reply
    by_cases hk : place = k
    · subst hk
      simp only [hwaits, hlt, hasked, if_true]
      simp
      tauto
    · rw [if_neg hk]
      constructor
      · rintro (hold | ⟨rfl, -⟩)
        · exact hold
        · exact absurd rfl hk
      · exact Or.inl
  · simp [Happening.takings, ← h.takings_eq]

theorem Coherent.take {command : Command} {reply : Reply} (h : q.Coherent trace p)
    (on : q.GoesOn p) (hasked : q.commands[p.taken.length]? = some command)
    (hcame : p.replies[p.taken.length]? = some (some reply)) :
    q.Coherent (trace ++ [.taken command reply]) { p with taken := p.taken ++ [reply] } := by
  refine ⟨h.length_le, map_some_append_came h.taken_came hcame, ?_, ?_, ?_⟩
  · intro r hr
    rw [List.dropLast_concat] at hr
    exact on.2 r hr
  · intro place asked r
    rw [answered_append, h.answered_iff]
    have htaken : ¬ Answered [Happening.taken (σ := σ) command reply] place asked r := by
      rintro ⟨s, hmem⟩
      simp at hmem
    exact or_iff_left htaken
  · rw [zip_concat hasked, ← h.takings_eq]
    simp [Happening.takings]

/-- **Every step keeps the invariant.** -/
theorem Coherent.step {more : List (Happening σ)} (h : q.Coherent trace p)
    (step : Step w q (p, s) more (p', s')) : q.Coherent (trace ++ more) p' := by
  cases step with
  | send _ next _ => exact h.send next
  | answer _ asked waits _ => exact h.answer asked waits
  | take on asked came => exact h.take on asked came

/-! ## The limit -/

/-- A command that was sent is one more. -/
theorem unanswered_append_none (p : Progress) :
    ({ p with replies := p.replies ++ [none] } : Progress).unanswered = p.unanswered + 1 := by
  simp [Progress.unanswered]

/-- One that was answered is one less. -/
theorem unanswered_set {place : Nat} (hwaits : p.replies[place]? = some none) (reply : Reply) :
    ({ p with replies := p.replies.set place (some reply) } : Progress).unanswered + 1 =
      p.unanswered := by
  obtain ⟨hlt, hnone⟩ := List.getElem?_eq_some_iff.1 hwaits
  have hpos : 0 < p.replies.count none := List.count_pos_iff.2 (List.mem_of_getElem? hwaits)
  have hcount : (p.replies.set place (some reply)).count none = p.replies.count none - 1 := by
    rw [List.count_set hlt, hnone]
    rfl
  change (p.replies.set place (some reply)).count none + 1 = p.replies.count none
  omega

/-- A step leaves no more commands unanswered than the limit. -/
theorem Step.unanswered_le {more : List (Happening σ)} (step : Step w q (p, s) more (p', s'))
    (h : p.unanswered ≤ max 1 q.limit) : p'.unanswered ≤ max 1 q.limit := by
  cases step with
  | send _ _ room =>
    rw [unanswered_append_none]
    exact room
  | answer _ _ waits _ =>
    exact (Nat.le_of_succ_le (unanswered_set waits _).le).trans h
  | take _ _ _ => exact h

/-- **Never are more commands unanswered than the limit**, where a limit of
zero counts as one. -/
theorem unanswered_le {a b : Progress × σ} (h : Reaches (Step w q) a trace b)
    (hstart : a.1.unanswered ≤ max 1 q.limit) : b.1.unanswered ≤ max 1 q.limit := by
  induction h with
  | refl => exact hstart
  | next head _ ih => exact ih (head.unanswered_le hstart)

/-! ## Ended inquiries -/

theorem Concludes.coherent (h : q.Concludes w s trace p s') : q.Coherent trace p := by
  have hpreserves : ∀ (es : List (Happening σ)) (a : Progress × σ) (fs : List (Happening σ))
      (b : Progress × σ), q.Coherent es a.1 → Step w q a fs b → q.Coherent (es ++ fs) b.1 :=
    fun _ _ _ _ hold step => hold.step step
  exact h.1.invariant hpreserves [] (.start q)

theorem Coherent.length_taken_le (h : q.Coherent trace p) :
    p.taken.length ≤ q.commands.length := by
  have hcame := h.taken_came.length_le
  rw [List.length_map] at hcame
  exact hcame.trans h.length_le

/-- **Every reply is taken up, or the replies up to the first failure.** -/
theorem Concludes.taken_cases (h : q.Concludes w s trace p s') :
    (p.taken.length = q.commands.length ∧ ∀ reply ∈ p.taken, q.isFailure reply = false) ∨
      ∃ good bad, p.taken = good ++ [bad] ∧ (∀ reply ∈ good, q.isFailure reply = false) ∧
        q.isFailure bad = true := by
  have hle := h.coherent.length_taken_le
  by_cases hgood : ∀ reply ∈ p.taken, q.isFailure reply = false
  · left
    refine ⟨?_, hgood⟩
    by_contra hne
    exact h.2 ⟨by omega, hgood⟩
  · right
    -- a failure ends the inquiry, so it can only be the last reply taken up
    have hne : p.taken ≠ [] := by
      rintro heq
      rw [heq] at hgood
      exact hgood (by simp)
    have hsplit := List.dropLast_concat_getLast hne
    refine ⟨p.taken.dropLast, p.taken.getLast hne, hsplit.symm, h.coherent.failed_last, ?_⟩
    by_contra hlast
    refine hgood fun reply hmem => ?_
    rw [← hsplit, List.mem_append, List.mem_singleton] at hmem
    rcases hmem with hmem | rfl
    · exact h.coherent.failed_last reply hmem
    · exact Bool.eq_false_iff.2 hlast

/-- **What was taken up at a place is what was answered there.** -/
theorem Concludes.answered_iff (h : q.Concludes w s trace p s') {place : Nat}
    (hlt : place < p.taken.length) {command : Command} {reply : Reply} :
    Answered trace place command reply ↔
      q.commands[place]? = some command ∧ p.taken[place]? = some reply := by
  obtain ⟨rest, hrest⟩ := h.coherent.taken_came
  rw [h.coherent.answered_iff, ← hrest, List.getElem?_append_left (by simpa using hlt),
    List.getElem?_map]
  simp

/-- The replies are taken up to the commands in their order. -/
theorem Concludes.takings_eq (h : q.Concludes w s trace p s') :
    Happening.takings trace = q.commands.zip p.taken :=
  h.coherent.takings_eq

/-- The commands are sent in their order, none of them twice. -/
theorem Concludes.events_eq (h : q.Concludes w s trace p s') :
    Happening.events trace = (q.commands.take p.replies.length).map .asked := by
  have hpreserves : ∀ (es : List (Happening σ)) (a : Progress × σ) (fs : List (Happening σ))
      (b : Progress × σ), Happening.events es = (q.commands.take a.1.replies.length).map .asked →
        Step w q a fs b →
          Happening.events (es ++ fs) = (q.commands.take b.1.replies.length).map .asked := by
    intro es a fs b hold step
    rw [Happening.events, List.filterMap_append]
    change Happening.events es ++ _ = _
    rw [hold]
    cases step with
    | send _ next _ => simp [Happening.event?, List.take_add_one, next]
    | answer => simp [Happening.event?]
    | take => simp [Happening.event?]
  exact h.1.invariant hpreserves [] rfl

/-! ## Replies known beforehand -/

/-- Replies up to the first failure. -/
def upToFailure (isFailure : Reply → Bool) : List Reply → List Reply
  | [] => []
  | reply :: rest => if isFailure reply then [reply] else reply :: upToFailure isFailure rest

/-- Where replies are taken up to the end or to a failure, and nothing is
taken up after a failure, they are those up to the first. -/
theorem eq_upToFailure {isFailure : Reply → Bool} {taken replies : List Reply}
    (hstart : taken <+: replies) (hlast : ∀ reply ∈ taken.dropLast, isFailure reply = false)
    (hover : replies.length ≤ taken.length ∨ ∃ reply ∈ taken, isFailure reply = true) :
    taken = upToFailure isFailure replies := by
  induction replies generalizing taken with
  | nil => rw [List.prefix_nil.1 hstart, upToFailure]
  | cons reply replies ih =>
    cases taken with
    | nil => simp at hover
    | cons first taken =>
      obtain ⟨rfl, hrest⟩ := List.cons_prefix_cons.1 hstart
      rw [upToFailure]
      split
      · next hfailure =>
        -- a second reply would stand behind the failure
        cases taken with
        | nil => rfl
        | cons second taken =>
          have := hlast first (by simp)
          rw [hfailure] at this
          exact absurd this (by simp)
      · next hgood =>
        rw [← ih hrest]
        · intro r hr
          refine hlast r ?_
          cases taken with
          | nil => simp at hr
          | cons second taken => exact List.mem_cons_of_mem _ hr
        · simpa [hgood] using hover

/-- The replies that came are those of a list at their places. -/
def Progress.Follows (p : Progress) (replies : List Reply) : Prop :=
  ∀ (place : Nat) (reply : Reply), p.replies[place]? = some (some reply) →
    replies[place]? = some reply

/-- **When it is known what each command is replied, whatever was asked
before, it is known what is taken up**, in whatever order the answers come.
What holds of the agent's state, and every answer keeps, holds at the end. -/
theorem Concludes.taken_eq {P : σ → Prop} {replies : List Reply}
    (hlength : replies.length = q.commands.length)
    (reacts : ∀ (place : Nat) (command : Command) (s : σ) (reply : Reply) (s' : σ),
      q.commands[place]? = some command → P s → w s command reply s' →
        replies[place]? = some reply ∧ P s')
    (h : q.Concludes w s trace p s') (hs : P s) :
    p.taken = upToFailure q.isFailure replies ∧ P s' := by
  have hpreserves : ∀ (es : List (Happening σ)) (a : Progress × σ) (fs : List (Happening σ))
      (b : Progress × σ), (a.1.Follows replies ∧ P a.2) → Step w q a fs b →
        b.1.Follows replies ∧ P b.2 := by
    rintro es a fs b ⟨hcame, hstate⟩ step
    cases step with
    | @send p s _ _ _ _ =>
      refine ⟨fun place reply hreply => hcame place reply ?_, hstate⟩
      simp only [List.getElem?_append] at hreply
      split at hreply
      · exact hreply
      · simp [List.getElem?_singleton] at hreply
    | @answer p s s' place command reply _ asked waits answers =>
      obtain ⟨hreply, hstate⟩ := reacts place command s reply s' asked hstate answers
      refine ⟨fun k r hr => ?_, hstate⟩
      simp only [List.getElem?_set] at hr
      split at hr
      · next hk =>
        subst hk
        split at hr
        · rwa [← Option.some.inj (Option.some.inj hr)]
        · simp at hr
      · exact hcame k r hr
    | take _ _ _ => exact ⟨hcame, hstate⟩
  have hstart : Progress.start.Follows replies := by simp [Progress.start, Progress.Follows]
  obtain ⟨hcame, hstate⟩ := h.1.invariant hpreserves [] ⟨hstart, hs⟩
  refine ⟨eq_upToFailure ?_ h.coherent.failed_last ?_, hstate⟩
  · rw [List.prefix_iff_getElem?]
    intro place hlt
    refine hcame place _ ?_
    obtain ⟨rest, hrest⟩ := h.coherent.taken_came
    rw [← hrest, List.getElem?_append_left (by simpa using hlt), List.getElem?_map,
      List.getElem?_eq_getElem hlt]
    rfl
  · rcases h.taken_cases with ⟨hall, -⟩ | ⟨good, bad, htaken, -, hbad⟩
    · exact .inl (by omega)
    · exact .inr ⟨bad, by simp [htaken], hbad⟩

/-- An inquiry hands nothing to a sink. -/
theorem delivered_not_mem {a b : Progress × σ} (h : Reaches (Step w q) a trace b)
    (batch : List Metric) : .delivered batch ∉ trace := by
  induction h with
  | refl => exact List.not_mem_nil
  | next head _ ih =>
    rw [List.mem_append]
    rintro (hmem | hmem)
    · cases head <;> simp at hmem
    · exact ih hmem

end KeaGauge.Inquiry
