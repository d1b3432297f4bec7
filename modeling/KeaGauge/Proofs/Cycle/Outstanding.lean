import KeaGauge.Proofs.Cycle.Inquiry
/-!
# Requests under way

A command that was sent and not answered is under way. While a dialogue goes
on in any way it may, how many are under way is what the inquiry at hand
leaves unanswered (`Underway`), and a dialogue that asks nothing more after a
failed inquiry (`Dialogue.Patient`) asks its single commands only when none
is (`underway_punctual`).
-/

namespace KeaGauge

open Kea (Command)

namespace Happening

variable {σ : Type}

/-- How many commands were sent. -/
def sentCount (trace : List (Happening σ)) : Nat :=
  trace.countP fun
    | sent .. => true
    | _ => false

/-- How many commands were answered. -/
def answeredCount (trace : List (Happening σ)) : Nat :=
  trace.countP fun
    | answered .. => true
    | _ => false

/-- **So many commands are under way**: they were sent and not answered. -/
def Outstanding (trace : List (Happening σ)) (count : Nat) : Prop :=
  sentCount trace = answeredCount trace + count

theorem outstanding_append {trace more : List (Happening σ)} {before after : Nat}
    (h : Outstanding trace before)
    (hmore : sentCount more + before = answeredCount more + after) :
    Outstanding (trace ++ more) after := by
  simp only [Outstanding, sentCount, answeredCount, List.countP_append] at *
  omega

/-- Commands of a name were sent only while none was under way. -/
def Punctual (name : String) (trace : List (Happening σ)) : Prop :=
  ∀ earlier place command later, trace = earlier ++ .sent place command :: later →
    command.name = name → Outstanding earlier 0

end Happening

open Happening (sentCount answeredCount Outstanding Punctual)

/-! ## What a step does to them -/

namespace Inquiry

variable {σ : Type} {w : World σ} {q : Inquiry} {s s' : σ} {p p' : Progress}
variable {more : List (Happening σ)}

theorem Step.outstanding (step : Step w q (p, s) more (p', s')) :
    sentCount more + p.unanswered = answeredCount more + p'.unanswered := by
  cases step with
  | send _ _ _ =>
    rw [unanswered_append_none]
    simp [sentCount, answeredCount, Nat.add_comm]
  | @answer _ _ _ _ _ reply _ _ waits _ =>
    have hless := unanswered_set waits reply
    simp only [sentCount, answeredCount, List.countP_singleton, Bool.false_eq_true, if_false,
      if_true]
    omega
  | take _ _ _ => simp [sentCount, answeredCount, Progress.unanswered]

/-- When every command has its reply taken up, none is under way. -/
theorem unanswered_eq_zero {trace : List (Happening σ)} (h : q.Coherent trace p)
    (hlength : q.commands.length ≤ p.taken.length) : p.unanswered = 0 := by
  obtain ⟨rest, hrest⟩ := h.taken_came
  have hle := h.length_le
  rw [← hrest, List.length_append, List.length_map] at hle
  obtain rfl : rest = [] := List.eq_nil_of_length_eq_zero (by omega)
  rw [Progress.unanswered, ← hrest, List.append_nil, List.count_eq_zero]
  simp

end Inquiry

/-! ## Dialogues -/

namespace Dialogue

variable {α σ τ : Type}

/-- A dialogue that asks the agent nothing. -/
def AsksNothing : Dialogue α → Prop
  | .done _ => True
  | .ask _ _ | .askEach _ _ => False
  | .deliver _ next => ∀ taken, (next taken).AsksNothing
  | .note _ next | .pass _ next => next.AsksNothing

/-- **A dialogue that waits for its inquiries**: a failed one is the last
thing it asks. Its inquiries have this limit at most, and commands of this
name are not among theirs. -/
def Patient (limit : Nat) (name : String) : Dialogue α → Prop
  | .done _ => True
  | .ask _ next => ∀ reply, (next reply).Patient limit name
  | .askEach q next => max 1 q.limit ≤ limit ∧ (∀ command ∈ q.commands, command.name ≠ name) ∧
      ∀ replies, (next replies).Patient limit name ∧
        (replies.length ≤ q.commands.length → (∃ reply ∈ replies, q.isFailure reply = true) →
          (next replies).AsksNothing)
  | .deliver _ next => ∀ taken, (next taken).Patient limit name
  | .note _ next | .pass _ next => next.Patient limit name

theorem patient_of_asksNothing {limit : Nat} {name : String} {d : Dialogue α}
    (h : d.AsksNothing) : d.Patient limit name := by
  induction d with
  | done => trivial
  | ask => exact h.elim
  | askEach => exact h.elim
  | deliver batch next ih => exact fun taken => ih taken (h taken)
  | note notice next ih => exact ih h
  | pass stage next ih => exact ih h

theorem asksNothing_noting {notices : List Notice} {d : Dialogue α} :
    (noting notices d).AsksNothing ↔ d.AsksNothing := by
  induction notices with
  | nil => rfl
  | cons notice notices ih => exact ih

theorem patient_noting {limit : Nat} {name : String} {notices : List Notice} {d : Dialogue α} :
    (noting notices d).Patient limit name ↔ d.Patient limit name := by
  induction notices with
  | nil => rfl
  | cons notice notices ih => exact ih

theorem patient_pass {limit : Nat} {name : String} {stage : Stage} {d : Dialogue α} :
    (pass stage d).Patient limit name ↔ d.Patient limit name :=
  Iff.rfl

section Determined

variable {w : World σ} {sink : Sink τ} {s₁ s₁' s₂ s₂' : σ} {t t₁ t₂ : τ}
variable {trace₁ trace₂ : List (Happening σ)} {result₁ result₂ : α}

/-- **Where nothing is asked, only the sink decides**: there is one way to go
on. -/
theorem AsksNothing.determined {d : Dialogue α} (h : d.AsksNothing)
    (h₁ : Completes w sink d s₁ t trace₁ result₁ s₁' t₁)
    (h₂ : Completes w sink d s₂ t trace₂ result₂ s₂' t₂) :
    trace₁ = trace₂ ∧ result₁ = result₂ ∧ t₁ = t₂ := by
  induction d generalizing t trace₁ trace₂ with
  | done =>
    obtain ⟨rfl, rfl, -, rfl⟩ := completes_done.1 h₁
    obtain ⟨rfl, rfl, -, rfl⟩ := completes_done.1 h₂
    exact ⟨rfl, rfl, rfl⟩
  | ask => exact h.elim
  | askEach => exact h.elim
  | deliver batch next ih =>
    obtain ⟨_, rfl, k₁⟩ := completes_deliver.1 h₁
    obtain ⟨_, rfl, k₂⟩ := completes_deliver.1 h₂
    obtain ⟨rfl, hrest⟩ := ih _ (h _) k₁ k₂
    exact ⟨rfl, hrest⟩
  | note notice next ih =>
    obtain ⟨_, rfl, k₁⟩ := completes_note.1 h₁
    obtain ⟨_, rfl, k₂⟩ := completes_note.1 h₂
    obtain ⟨rfl, hrest⟩ := ih h k₁ k₂
    exact ⟨rfl, hrest⟩
  | pass stage next ih =>
    obtain ⟨_, rfl, k₁⟩ := completes_pass.1 h₁
    obtain ⟨_, rfl, k₂⟩ := completes_pass.1 h₂
    obtain ⟨rfl, hrest⟩ := ih h k₁ k₂
    exact ⟨rfl, hrest⟩

end Determined

/-! ## The invariant -/

variable {w : World σ} {sink : Sink τ} {limit : Nat} {name : String}
variable {trace more : List (Happening σ)} {a b : State α σ τ}

/-- **What is under way where a dialogue stands**: nothing before an act of
its own, what an inquiry leaves unanswered while it goes on, and no more than
the limit when nothing will be asked again. -/
inductive Underway (limit : Nat) (name : String) (trace : List (Happening σ)) :
    Stand α → Prop where
  | idle {d : Dialogue α} (none : Outstanding trace 0) (patient : d.Patient limit name) :
      Underway limit name trace (.talking d)
  | inquiring {q : Inquiry} {p : Inquiry.Progress} {next : List Reply → Dialogue α}
      {own : List (Happening σ)} (coherent : q.Coherent own p)
      (waiting : Outstanding trace p.unanswered) (le : p.unanswered ≤ max 1 q.limit)
      (patient : (Dialogue.askEach q next).Patient limit name) :
      Underway limit name trace (.inquiring q p next)
  | ended {d : Dialogue α} {count : Nat} (waiting : Outstanding trace count) (le : count ≤ limit)
      (quiet : d.AsksNothing) : Underway limit name trace (.talking d)

/-- No more than the limit is under way. -/
theorem Underway.outstanding_le {stand : Stand α} (h : Underway limit name trace stand) :
    ∃ count ≤ limit, Outstanding trace count := by
  cases h with
  | idle none _ => exact ⟨0, Nat.zero_le _, none⟩
  | inquiring _ waiting le patient => exact ⟨_, le.trans patient.1, waiting⟩
  | ended waiting le _ => exact ⟨_, le, waiting⟩

/-- An inquiry that ended leaves nothing unanswered, or failed. -/
theorem underway_conclude {q : Inquiry} {p : Inquiry.Progress} {next : List Reply → Dialogue α}
    (h : Underway limit name trace (.inquiring q p next)) (ended : ¬ q.GoesOn p) :
    Underway limit name trace (.talking (next p.taken)) := by
  cases h with
  | inquiring coherent waiting le patient =>
    obtain ⟨hlimit, -, hnext⟩ := patient
    by_cases hgood : ∀ reply ∈ p.taken, q.isFailure reply = false
    · have hlength : q.commands.length ≤ p.taken.length := by
        by_contra hlt
        exact ended ⟨by omega, hgood⟩
      rw [Inquiry.unanswered_eq_zero coherent hlength] at waiting
      exact .idle waiting (hnext p.taken).1
    · refine .ended waiting (le.trans hlimit) ((hnext p.taken).2 coherent.length_taken_le ?_)
      simpa using hgood

/-- **Every step keeps the invariant.** -/
theorem Underway.step (h : Underway limit name trace a.stand) (step : Step w sink a more b) :
    Underway limit name (trace ++ more) b.stand := by
  cases step with
  | ask answers =>
    cases h with
    | idle none patient => exact .idle (Happening.outstanding_append none rfl) (patient _)
    | ended _ _ quiet => exact quiet.elim
  | askEach =>
    rw [List.append_nil]
    cases h with
    | idle none patient =>
      exact .inquiring (.start _) none (Nat.zero_le _) patient
    | ended _ _ quiet => exact quiet.elim
  | inquire step =>
    cases h with
    | inquiring coherent waiting le patient =>
      exact .inquiring (coherent.step step)
        (Happening.outstanding_append waiting step.outstanding) (step.unanswered_le le) patient
  | conclude ended =>
    rw [List.append_nil]
    exact underway_conclude h ended
  | deliver =>
    cases h with
    | idle none patient => exact .idle (Happening.outstanding_append none rfl) (patient _)
    | ended waiting le quiet =>
      exact .ended (Happening.outstanding_append waiting (by simp [sentCount, answeredCount])) le
        (quiet _)
  | note =>
    cases h with
    | idle none patient => exact .idle (Happening.outstanding_append none rfl) patient
    | ended waiting le quiet =>
      exact .ended (Happening.outstanding_append waiting (by simp [sentCount, answeredCount])) le
        quiet
  | pass =>
    cases h with
    | idle none patient => exact .idle (Happening.outstanding_append none rfl) patient
    | ended waiting le quiet =>
      exact .ended (Happening.outstanding_append waiting (by simp [sentCount, answeredCount])) le
        quiet

/-- A command of the name that a step sends is sent while none is under
way. -/
theorem Underway.sent_step (h : Underway limit name trace a.stand) (step : Step w sink a more b)
    {between later : List (Happening σ)} {place : Nat} {command : Command}
    (hmore : more = between ++ .sent place command :: later) (hname : command.name = name) :
    Outstanding (trace ++ between) 0 := by
  cases step with
  | ask answers =>
    cases h with
    | idle none _ =>
      -- the command is the first of an exchange, and is sent once in it
      cases between with
      | nil => rwa [List.append_nil]
      | cons x between =>
        have hrest : [Happening.answered 0 _ _ _, Happening.taken _ _] =
            between ++ .sent place command :: later := (List.cons.inj hmore).2
        have hmem : Happening.sent place command ∈ between ++ .sent place command :: later := by
          simp
        rw [← hrest] at hmem
        simp at hmem
    | ended _ _ quiet => exact quiet.elim
  | inquire step =>
    cases h with
    | inquiring _ _ _ patient =>
      obtain ⟨-, hcommands, -⟩ := patient
      have hmem : Happening.sent place command ∈ more := by simp [hmore]
      cases step with
      | send _ next _ =>
        obtain ⟨rfl, rfl⟩ : place = _ ∧ command = _ := by simpa using hmem
        exact absurd hname (hcommands _ (List.mem_of_getElem? next))
      | answer => simp at hmem
      | take => simp at hmem
  | askEach => simp at hmore
  | conclude => simp at hmore
  | deliver => simp [List.cons_eq_append_iff] at hmore
  | note => simp [List.cons_eq_append_iff] at hmore
  | pass => simp [List.cons_eq_append_iff] at hmore

/-- **However a patient dialogue goes on**, no more than the limit is under
way, and commands of the name are sent when none is. -/
theorem underway_punctual {d : Dialogue α} {s : σ} {t : τ} (hd : d.Patient limit name)
    (h : Reaches (Step w sink) ⟨.talking d, s, t⟩ trace b) :
    Underway limit name trace b.stand ∧ Punctual name trace := by
  have hpreserves : ∀ (es : List (Happening σ)) (a : State α σ τ) (fs : List (Happening σ))
      (b : State α σ τ), (Underway limit name es a.stand ∧ Punctual name es) →
        Step w sink a fs b → Underway limit name (es ++ fs) b.stand ∧ Punctual name (es ++ fs) := by
    rintro es a fs b ⟨hunderway, hpunctual⟩ step
    refine ⟨hunderway.step step, fun earlier place command later htrace hname => ?_⟩
    rcases append_eq_append_cons htrace with ⟨rest, rfl⟩ | ⟨between, rfl, hmore⟩
    · exact hpunctual earlier place command rest rfl hname
    · exact hunderway.sent_step step hmore hname
  refine h.invariant hpreserves [] ⟨.idle rfl hd, fun earlier place command later htrace => ?_⟩
  simp at htrace

end Dialogue

end KeaGauge
