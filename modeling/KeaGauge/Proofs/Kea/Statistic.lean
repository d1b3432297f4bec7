import KeaGauge.Kea.Statistic
import KeaGauge.Proofs.Json.View
import KeaGauge.Text.Reader
import Mathlib.Data.Nat.Digits.Defs
/-!
# Series, their names and their points

What a list of samples stands for, said without the functions that read it: a
sample of the right form is a point (`Sampled`), and the points of a series
are those of its samples in order, others left out (`Sampling`). Both are
what the readers find (`sampled_iff`, `sampling_iff`). The name of a series
tells its subnet and its statistic (`statisticName_inj`).
-/

namespace KeaGauge.Kea

open Json (Value)

/-! ## Names -/

/-- The digits of an id end where the bracket closes. -/
theorem toList_statisticName (id : Nat) (statistic : String) :
    (statisticName id statistic).toList =
      "subnet[".toList ++ (Nat.toDigits 10 id ++ ']' :: '.' :: statistic.toList) := by
  simp [statisticName, Nat.repr]

/-- **The name of a statistic is of one subnet and one statistic only.** -/
theorem statisticName_inj {id other : Nat} {statistic next : String}
    (h : statisticName id statistic = statisticName other next) :
    id = other ∧ statistic = next := by
  have hdigits : ∀ n, ∀ c ∈ Nat.toDigits 10 n, c.isDigit = true := fun n c hc =>
    Nat.isDigit_of_mem_toDigits (by decide) (by decide) hc
  have hbracket : ∀ rest : List Char, ∀ c ∈ (']' :: rest).head?, c.isDigit = false := by
    intro rest c hc
    obtain rfl := Option.some.inj hc
    rfl
  have hlists := congrArg String.toList h
  rw [toList_statisticName, toList_statisticName, List.append_cancel_left_eq] at hlists
  have hrun := congrArg (List.takeWhile Char.isDigit) hlists
  have hrest := congrArg (List.dropWhile Char.isDigit) hlists
  rw [Text.takeWhile_append_run (hdigits id) (hbracket _),
    Text.takeWhile_append_run (hdigits other) (hbracket _)] at hrun
  rw [Text.dropWhile_append_run (hdigits id) (hbracket _),
    Text.dropWhile_append_run (hdigits other) (hbracket _)] at hrest
  have hid := congrArg (Nat.ofDigitChars 10 · 0) hrun
  simp only [Nat.ofDigitChars_ten_toDigits] at hid
  exact ⟨hid, String.toList_inj.1 (by simpa using hrest)⟩

/-- **A sample is a point**: a list of exactly an integer that 64 signed bits
hold and a text that names an instant. -/
inductive Sampled : Value → Point → Prop where
  | pair {n : Int} {written : String} {instant : Calendar.Instant}
      (lower : -0x8000000000000000 ≤ n) (upper : n < 0x8000000000000000)
      (named : Calendar.Timestamp.ofText? written = some instant) :
      Sampled (.list [.int n, .string written]) ⟨instant, n⟩

/-- The points of samples, in their order; a sample that is no point is left
out. -/
inductive Sampling : List Value → List Point → Prop where
  | nil : Sampling [] []
  | point {v : Value} {p : Point} {vs : List Value} {ps : List Point} (here : Sampled v p)
      (rest : Sampling vs ps) : Sampling (v :: vs) (p :: ps)
  | malformed {v : Value} {vs : List Value} {ps : List Point} (here : ∀ p, ¬ Sampled v p)
      (rest : Sampling vs ps) : Sampling (v :: vs) ps

/-- **The reader of samples finds the point that a sample is.** -/
theorem sampled_iff {v : Value} {p : Point} : Sampled v p ↔ Point.ofSample? v = some p := by
  constructor
  · rintro ⟨lower, upper, named⟩
    have hint := Value.int64?_eq_some_iff.2 ⟨rfl, lower, upper⟩
    simp [Point.ofSample?, hint, Value.text?, named]
  · intro h
    unfold Point.ofSample? at h
    split at h
    · next value timestamp =>
      simp only [Option.bind_eq_bind, Option.bind_eq_some_iff] at h
      obtain ⟨n, hint, written, htext, instant, named, hpoint⟩ := h
      obtain ⟨rfl, lower, upper⟩ := Value.int64?_eq_some_iff.1 hint
      obtain rfl := Value.text?_eq_some_iff.1 htext
      obtain rfl := Option.some.inj hpoint
      exact .pair lower upper named
    · exact absurd h (by simp)

/-- **The points of a series are those that the reader finds in it.** -/
theorem sampling_iff {vs : List Value} {ps : List Point} :
    Sampling vs ps ↔ vs.filterMap Point.ofSample? = ps := by
  constructor
  · intro h
    induction h with
    | nil => rfl
    | point here _ ih => rw [List.filterMap_cons_some (sampled_iff.1 here), ih]
    | malformed here _ ih =>
      have : Point.ofSample? _ = none :=
        Option.eq_none_iff_forall_not_mem.2 fun p hp => here p (sampled_iff.2 hp)
      rw [List.filterMap_cons_none this, ih]
  · rintro rfl
    induction vs with
    | nil => exact .nil
    | cons v vs ih =>
      cases hv : Point.ofSample? v with
      | none =>
        rw [List.filterMap_cons_none hv]
        refine .malformed (fun p hp => ?_) ih
        rw [sampled_iff.1 hp] at hv
        exact absurd hv (by simp)
      | some p =>
        rw [List.filterMap_cons_some hv]
        exact .point (sampled_iff.2 hv) ih

/-- A series is found under its name in the arguments when it is a list
there. -/
theorem samplesAt_of_list {arguments : Json.Object} {statistic : String} {samples : List Value}
    (h : arguments.get? statistic = some (.list samples)) :
    samplesAt arguments statistic = samples := by
  simp [samplesAt, h, Value.items?]

/-- Otherwise there are no samples. -/
theorem samplesAt_of_not_list {arguments : Json.Object} {statistic : String}
    (h : ∀ samples, arguments.get? statistic ≠ some (.list samples)) :
    samplesAt arguments statistic = [] := by
  unfold samplesAt
  cases hv : arguments.get? statistic with
  | none => rfl
  | some v =>
    cases v with
    | list samples => exact absurd hv (h samples)
    | _ => rfl

/-- **A series is found, or there are no samples.** -/
theorem samplesAt_cases (arguments : Json.Object) (statistic : String) :
    (∃ samples, arguments.get? statistic = some (.list samples) ∧
        samplesAt arguments statistic = samples) ∨
      (∀ samples, arguments.get? statistic ≠ some (.list samples)) ∧
        samplesAt arguments statistic = [] := by
  by_cases hlist : ∃ samples, arguments.get? statistic = some (.list samples)
  · obtain ⟨samples, found⟩ := hlist
    exact .inl ⟨samples, found, samplesAt_of_list found⟩
  · have hnone := fun samples h => hlist ⟨samples, h⟩
    exact .inr ⟨hnone, samplesAt_of_not_list hnone⟩

end KeaGauge.Kea
