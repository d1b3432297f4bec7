import KeaGauge.Settings.Basic
/-!
# Launching a poller

A pass has a permit for each target that may be collected from at once, and
one pass follows on the other by a ticker. The runtime makes permits and
tickers of some numbers only. Where it makes none of a number, the program
ends in a panic.
-/

namespace KeaGauge

/-- Why the runtime ended the program. -/
inductive Panic where
  | tooManyPermits
  | noPeriod
deriving DecidableEq, Repr

/-- The most permits that there may be: three bits of a word of 64 bits are
not for counting. -/
def maxPermits : Nat := (UInt64.size - 1) >>> 3

/-- What is said of a panic. -/
def Panic.message : Panic → String
  | tooManyPermits => s!"a semaphore may not have more than MAX_PERMITS permits ({maxPermits})"
  | noPeriod => "the period must be non-zero"

/-- Permits, not too many. -/
structure Permits where
  count : Nat
  bounded : count ≤ maxPermits
deriving DecidableEq

/-- Makes so many permits. -/
def Permits.make (count : Nat) : Except Panic Permits :=
  if h : count ≤ maxPermits then .ok ⟨count, h⟩ else .error .tooManyPermits

/-- A ticker, and how many seconds there are between its ticks. -/
structure Ticker where
  seconds : Nat
  positive : 0 < seconds
deriving DecidableEq

/-- Makes a ticker. -/
def Ticker.make (seconds : Nat) : Except Panic Ticker :=
  if h : 0 < seconds then .ok ⟨seconds, h⟩ else .error .noPeriod

namespace Settings.Polling

/-- The permits of each pass. -/
def permits (p : Polling) : Except Panic Permits := Permits.make p.parallel.toNat

/-- The ticker of the passes. -/
def ticker (p : Polling) : Except Panic Ticker := Ticker.make p.interval.toNat

end Settings.Polling

end KeaGauge
