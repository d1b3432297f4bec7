import KeaGauge.Json.Value
/-!
# Values seen as what they are

A value is seen as a list, a text or an integer exactly when it was made as
one, and what is read where a value of one kind may stand is what that value
was made of, or a default (`Found`).
-/

namespace KeaGauge.Json

namespace Value

variable {v : Value}

theorem items?_eq_some_iff {items : List Value} : v.items? = some items ↔ v = .list items := by
  cases v <;> simp [items?]

theorem text?_eq_some_iff {s : String} : v.text? = some s ↔ v = .string s := by
  cases v <;> simp [text?]

theorem nat?_eq_some_iff {n : Nat} : v.nat? = some n ↔ v = .int n := by
  cases v with
  | int m => cases m <;> simp [nat?, ← Int.ofNat_eq_natCast]
  | _ => simp [nat?]

theorem int64?_eq_some_iff {n : Int} :
    v.int64? = some n ↔ v = .int n ∧ -0x8000000000000000 ≤ n ∧ n < 0x8000000000000000 := by
  cases v with
  | int m =>
    simp only [int64?, Option.ite_none_right_eq_some, Option.some.injEq, int.injEq]
    constructor
    · rintro ⟨⟨hlower, hupper⟩, rfl⟩
      exact ⟨rfl, by omega, by omega⟩
    · rintro ⟨rfl, hlower, hupper⟩
      exact ⟨⟨by omega, by omega⟩, rfl⟩
  | _ => simp [int64?]

end Value

section Finding

variable {β : Type} {found? : Option Value} {make : β → Value} {default b : β}

/-- **What is found where a value of one kind may stand**: what the value
there was made of, and a default when there is none or one of another kind. -/
inductive Found (found? : Option Value) (make : β → Value) (default : β) : β → Prop where
  | present {b : β} (found : found? = some (make b)) : Found found? make default b
  | absent (missing : ∀ b, found? ≠ some (make b)) : Found found? make default default

/-- It is found by seeing the value as one of that kind. -/
theorem found_iff {view : Value → Option β} (hview : ∀ v b, view v = some b ↔ v = make b) :
    Found found? make default b ↔ (found?.bind view).getD default = b := by
  have hbind : ∀ b, found?.bind view = some b ↔ found? = some (make b) := fun b => by
    simp only [Option.bind_eq_some_iff, hview, exists_eq_right]
  constructor
  · rintro (⟨found⟩ | ⟨missing⟩)
    · rw [(hbind b).2 found, Option.getD_some]
    · have hnone : found?.bind view = none :=
        Option.eq_none_iff_forall_ne_some.2 fun b h => missing b ((hbind b).1 h)
      rw [hnone, Option.getD_none]
  · rintro rfl
    cases h : found?.bind view with
    | some b => exact .present ((hbind b).1 h)
    | none => exact .absent fun b hb => by simp [(hbind b).2 hb] at h

end Finding

end KeaGauge.Json
