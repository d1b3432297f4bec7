import KeaGauge.Poll.Launch
import KeaGauge.Proofs.Settings.Violation
/-!
# What validation says of a launch

Settings violate no rule just when they are usable (`violation?_eq_none_iff`):
no number in them is zero that must not be. This is enough for a ticker, and
for a permit at least, but the rules say nothing of a greatest number of
permits. Of usable settings a poller is launched just when they ask for no
more permits than there may be (`launch_of_accepted`).
-/

namespace KeaGauge

/-! ## Permits and tickers -/

theorem Permits.make_eq_ok_iff {count : Nat} {permits : Permits} :
    Permits.make count = .ok permits ↔ permits.count = count := by
  unfold Permits.make
  constructor
  · intro h
    split at h
    · obtain rfl := Except.ok.inj h
      rfl
    · exact absurd h (by simp)
  · rintro rfl
    rw [dif_pos permits.bounded]

theorem Permits.make_eq_error_iff {count : Nat} {panic : Panic} :
    Permits.make count = .error panic ↔ panic = .tooManyPermits ∧ maxPermits < count := by
  unfold Permits.make
  split
  · next h => simp [h]
  · next h => simp [Nat.lt_of_not_le h, eq_comm]

theorem Ticker.make_eq_ok_iff {seconds : Nat} {ticker : Ticker} :
    Ticker.make seconds = .ok ticker ↔ ticker.seconds = seconds := by
  unfold Ticker.make
  constructor
  · intro h
    split at h
    · obtain rfl := Except.ok.inj h
      rfl
    · exact absurd h (by simp)
  · rintro rfl
    rw [dif_pos ticker.positive]

namespace Settings

variable {s : Settings}

/-- A word that is not zero counts something. -/
theorem toNat_pos {n : UInt64} (h : n ≠ 0) : 0 < n.toNat :=
  Nat.pos_of_ne_zero fun hzero => h (UInt64.toNat_inj.1 hzero)

/-- **What settings that violate no rule are launched with.** There is a ticker
of the period that they say, and they ask for a permit at least. They get the
permits they ask for just when there may be so many, and otherwise the program
ends in a panic. -/
theorem launch_of_accepted (h : s.violation? = none) :
    (∃ ticker, s.polling.ticker = .ok ticker ∧ ticker.seconds = s.polling.interval.toNat) ∧
      1 ≤ s.polling.parallel.toNat ∧
      ((∃ permits, s.polling.permits = .ok permits ∧
          permits.count = s.polling.parallel.toNat) ↔ s.polling.parallel.toNat ≤ maxPermits) ∧
      ∀ panic, s.polling.permits = .error panic ↔
        panic = .tooManyPermits ∧ maxPermits < s.polling.parallel.toNat := by
  have husable := violation?_eq_none_iff.1 h
  have hinterval := toNat_pos husable.interval
  refine ⟨⟨⟨_, hinterval⟩, Ticker.make_eq_ok_iff.2 rfl, rfl⟩, toNat_pos husable.parallel, ?_,
    fun _ => Permits.make_eq_error_iff⟩
  constructor
  · rintro ⟨permits, -, hcount⟩
    exact hcount ▸ permits.bounded
  · intro hbounded
    exact ⟨⟨_, hbounded⟩, Permits.make_eq_ok_iff.2 rfl, rfl⟩

/-- Settings that ask for as many permits as there may be, and one more. -/
def crowded : Settings := { standard with polling := ⟨300, 0x2000000000000000⟩ }

/-- A launch of the settings as they are left. -/
theorem launch_of_accepted_standard :
    standard.violation? = none ∧
      (∃ ticker, standard.polling.ticker = .ok ticker ∧ ticker.seconds = 300) ∧
      1 ≤ standard.polling.parallel.toNat ∧
      ∃ permits, standard.polling.permits = .ok permits ∧ permits.count = 8 := by
  obtain ⟨hticker, hpermit, hpermits, -⟩ := launch_of_accepted (s := standard) (by decide)
  exact ⟨by decide, hticker, hpermit, hpermits.2 (by decide)⟩

/-- **Settings that violate no rule may be too many permits.** -/
theorem ofToml_crowded :
    ofToml inlinePath "[poller]\nmax_parallel_targets = 2305843009213693952\n" = .ok crowded ∧
      crowded.violation? = none ∧ crowded.polling.permits = .error .tooManyPermits := by
  refine ⟨?_, by decide, Permits.make_eq_error_iff.2 ⟨rfl, by decide⟩⟩
  have hread : (ofToml inlinePath
      "[poller]\nmax_parallel_targets = 2305843009213693952\n").toOption = some crowded := by
    decide +kernel
  generalize ofToml inlinePath _ = result at hread
  cases result with
  | error e => exact absurd hread (by simp [Except.toOption])
  | ok s => rw [Option.some.inj hread]

end Settings

end KeaGauge
