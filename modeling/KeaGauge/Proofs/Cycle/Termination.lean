import KeaGauge.Proofs.Cycle.Inquiry
import Mathlib.Order.WellFounded
/-!
# Dialogues come to their end

With an agent on which every request comes to an end, by an answer or by none
in time, a dialogue is never stuck (`Dialogue.exists_step`), and it does not
go on forever (`Dialogue.acc_step`): in an inquiry there is less and less left
to do, and an act of its own brings a dialogue to a part of itself.
-/

namespace KeaGauge

open Kea (Command)

/-- Every request comes to an end. -/
def World.Total {σ : Type} (w : World σ) : Prop :=
  ∀ s command, ∃ reply s', w s command reply s'

theorem Agent.world_total {σ : Type} (agent : Agent σ) : agent.world.Total :=
  fun _ _ => ⟨_, _, rfl⟩

namespace Inquiry

variable {σ : Type} {w : World σ} {q : Inquiry} {p p' : Progress} {s s' : σ}
variable {trace more : List (Happening σ)}

/-- What is left to do in an inquiry: commands to send and to have answered,
and replies to take up. -/
def remaining (q : Inquiry) (p : Progress) : Nat :=
  2 * (q.commands.length - p.replies.length) + p.unanswered +
    (q.commands.length - p.taken.length)

/-- **With every step there is less left to do.** -/
theorem Step.remaining_lt (step : Step w q (p, s) more (p', s')) :
    q.remaining p' < q.remaining p := by
  cases step with
  | send _ next _ =>
    have hlt := (List.getElem?_eq_some_iff.1 next).1
    simp only [remaining, unanswered_append_none, List.length_append, List.length_singleton]
    omega
  | @answer _ _ _ _ _ reply _ _ waits _ =>
    have hless := unanswered_set waits reply
    simp only [remaining, List.length_set]
    omega
  | take on _ _ =>
    have hlt := on.1
    simp only [remaining, Progress.unanswered, List.length_append, List.length_singleton]
    omega

/-- **An inquiry that goes on is not stuck.** -/
theorem Coherent.exists_step (total : w.Total) (h : q.Coherent trace p) (on : q.GoesOn p)
    (s : σ) : ∃ more p' s', Step w q (p, s) more (p', s') := by
  obtain ⟨command, hasked⟩ : ∃ command, q.commands[p.taken.length]? = some command :=
    ⟨_, List.getElem?_eq_getElem on.1⟩
  rcases hcame : p.replies[p.taken.length]? with _ | _ | reply
  · -- everything that was sent is taken up, so nothing is unanswered
    have hge : p.replies.length ≤ p.taken.length := List.getElem?_eq_none_iff.1 hcame
    have hall : p.taken.map some = p.replies :=
      List.IsPrefix.eq_of_length_le h.taken_came (by simpa using hge)
    have hlength : p.replies.length = p.taken.length := by rw [← hall, List.length_map]
    have hnone : p.unanswered = 0 := by
      rw [Progress.unanswered, ← hall, List.count_eq_zero]
      simp
    rw [← hlength] at hasked
    exact ⟨_, _, _, .send on hasked (by omega)⟩
  · obtain ⟨reply, s', answers⟩ := total s command
    exact ⟨_, _, _, .answer on hasked hcame answers⟩
  · exact ⟨_, _, _, .take on hasked hcame⟩

end Inquiry

namespace Dialogue

variable {α σ τ : Type} {w : World σ} {sink : Sink τ} {a b : State α σ τ}
variable {es : List (Happening σ)}

/-- An inquiry at hand is one that can come about. -/
def State.Coherent (a : State α σ τ) : Prop :=
  ∀ q p next, a.stand = .inquiring q p next → ∃ own : List (Happening σ), q.Coherent own p

/-- **Every step keeps this.** -/
theorem State.Coherent.step (h : a.Coherent) (step : Step w sink a es b) : b.Coherent := by
  intro q p next hstand
  cases step with
  | askEach =>
    obtain ⟨rfl, rfl, -⟩ := Stand.inquiring.inj hstand
    exact ⟨[], .start _⟩
  | inquire step =>
    obtain ⟨rfl, rfl, -⟩ := Stand.inquiring.inj hstand
    obtain ⟨own, hown⟩ := h _ _ _ rfl
    exact ⟨_, hown.step step⟩
  | ask | conclude | deliver | note | pass => simp at hstand

theorem State.Coherent.reaches (h : a.Coherent) (steps : Reaches (Step w sink) a es b) :
    b.Coherent :=
  steps.invariant (P := fun _ b => State.Coherent b) (fun _ _ _ _ hold step => hold.step step) [] h

/-- **A dialogue goes on until it has its result.** -/
theorem exists_step (total : w.Total) (sink : Sink τ) (h : a.Coherent) :
    (∃ result, a.stand = .talking (.done result)) ∨ ∃ es b, Step w sink a es b := by
  obtain ⟨stand, s, t⟩ := a
  cases stand with
  | talking d =>
    cases d with
    | done result => exact .inl ⟨result, rfl⟩
    | ask command next =>
      obtain ⟨reply, s', answers⟩ := total s command
      exact .inr ⟨_, _, .ask answers⟩
    | askEach q next => exact .inr ⟨_, _, .askEach⟩
    | deliver batch next => exact .inr ⟨_, _, .deliver⟩
    | note notice next => exact .inr ⟨_, _, .note⟩
    | pass stage next => exact .inr ⟨_, _, .pass⟩
  | inquiring q p next =>
    right
    by_cases on : q.GoesOn p
    · obtain ⟨own, hown⟩ := h _ _ _ rfl
      obtain ⟨es, p', s', step⟩ := hown.exists_step total on s
      exact ⟨_, _, .inquire step⟩
    · exact ⟨_, _, .conclude on⟩

/-- What a step leads to. -/
def Leads (w : World σ) (sink : Sink τ) (b a : State α σ τ) : Prop :=
  ∃ es, Step w sink a es b

/-- An inquiry comes to its end when what follows it does. -/
theorem acc_inquiring {q : Inquiry} {next : List Reply → Dialogue α}
    (hnext : ∀ replies s t, Acc (Leads w sink) ⟨.talking (next replies), s, t⟩)
    (p : Inquiry.Progress) (s : σ) (t : τ) :
    Acc (Leads w sink) ⟨.inquiring q p next, s, t⟩ := by
  -- by induction on what is left to do
  induction hleft : q.remaining p using Nat.strong_induction_on generalizing p s with
  | _ left ih =>
    refine ⟨_, ?_⟩
    rintro b ⟨es, step⟩
    cases step with
    | inquire step => exact ih _ (hleft ▸ step.remaining_lt) _ _ rfl
    | conclude _ => exact hnext _ _ _

/-- **No dialogue goes on forever.** -/
theorem acc_leads (a : State α σ τ) : Acc (Leads w sink) a := by
  have htalking : ∀ (d : Dialogue α) (s : σ) (t : τ), Acc (Leads w sink) ⟨.talking d, s, t⟩ := by
    intro d
    induction d with
    | done result =>
      refine fun s t => ⟨_, ?_⟩
      rintro b ⟨es, step⟩
      cases step
    | ask command next ih =>
      refine fun s t => ⟨_, ?_⟩
      rintro b ⟨es, step⟩
      cases step with
      | ask _ => exact ih _ _ _
    | askEach q next ih =>
      refine fun s t => ⟨_, ?_⟩
      rintro b ⟨es, step⟩
      cases step with
      | askEach => exact acc_inquiring ih _ _ _
    | deliver batch next ih =>
      refine fun s t => ⟨_, ?_⟩
      rintro b ⟨es, step⟩
      cases step with
      | deliver => exact ih _ _ _
    | note notice next ih =>
      refine fun s t => ⟨_, ?_⟩
      rintro b ⟨es, step⟩
      cases step with
      | note => exact ih _ _
    | pass stage next ih =>
      refine fun s t => ⟨_, ?_⟩
      rintro b ⟨es, step⟩
      cases step with
      | pass => exact ih _ _
  obtain ⟨stand, s, t⟩ := a
  cases stand with
  | talking d => exact htalking d s t
  | inquiring q p next => exact acc_inquiring (fun replies => htalking (next replies)) p s t

/-- **From wherever a dialogue has come to, it may come to a result.** -/
theorem exists_completion (total : w.Total) (sink : Sink τ) (h : a.Coherent) :
    ∃ es result s t, Reaches (Step w sink) a es ⟨.talking (.done result), s, t⟩ := by
  induction (acc_leads a : Acc (Leads w sink) a) with
  | intro a _ ih =>
    rcases exists_step total sink h with ⟨result, hdone⟩ | ⟨es, b, step⟩
    · obtain ⟨stand, s, t⟩ := a
      obtain rfl : stand = .talking (.done result) := hdone
      exact ⟨[], result, s, t, .refl _⟩
    · obtain ⟨fs, result, s, t, rest⟩ := ih b ⟨es, step⟩ (h.step step)
      exact ⟨es ++ fs, result, s, t, .next step rest⟩

end Dialogue

end KeaGauge
