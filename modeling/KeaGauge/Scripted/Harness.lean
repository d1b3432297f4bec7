import KeaGauge.Carbon.Receiver
import KeaGauge.Scripted.Fixture
import KeaGauge.Scripted.Script
import KeaGauge.Text.Quoted
/-!
# Harness

A scripted agent and a receiver together, with scripts of whole cycles and
expectations of the lines received.
-/

namespace KeaGauge.Scripted

open Carbon (Receiver)
open Json (Value)

/-- A scripted agent and a receiver. -/
structure Harness where
  script : Script
  receiver : Receiver

/-- The samples of statistics, by their names. -/
abbrev Samples := List (String × List (Int × String))

/-- Registers the samples of statistics. -/
def Script.registerAll (s : Script) (samples : Samples) : Script :=
  samples.foldl (fun s (name, points) => s.register name (Fixture.statisticAnswer name points)) s

/-- Scripts a cycle that reads one configuration first and another one at
its end. -/
def Script.addCycle (s : Script) (before after : Value) (samples : Samples) : Script :=
  ((s.enqueue (.json (Fixture.configAnswer before))).enqueue
    (.json (Fixture.configAnswer after))).registerAll samples

/-- Scripts a cycle whose configuration stays the same. -/
def Script.addConsistentCycle (s : Script) (config : Value) (samples : Samples) : Script :=
  s.addCycle config config samples

namespace Harness

/-- Nothing scripted and nothing received. -/
def fresh : Harness := ⟨.empty, .fresh⟩

/-- An expectation of lines that was not met. -/
inductive Unmet where
  | otherCount (expected : Nat) (lines : List String)
  | anyLine (lines : List String)
deriving DecidableEq, Repr

/-- What is said of an expectation that was not met. -/
def Unmet.message : Unmet → String
  | otherCount expected lines =>
    s!"expected {expected} carbon lines, got {lines.length}: " ++ Text.quotedList lines
  | anyLine lines =>
    s!"expected no carbon lines, got {lines.length}: " ++ Text.quotedList lines

/-- The lines received, which must be so many. -/
def expectLines (h : Harness) (count : Nat) : Except Unmet (List String) :=
  if h.receiver.lines.length = count then .ok h.receiver.lines
  else .error (.otherCount count h.receiver.lines)

/-- No line must have been received. -/
def expectNoLines (h : Harness) : Except Unmet Unit :=
  if h.receiver.lines.isEmpty then .ok () else .error (.anyLine h.receiver.lines)

/-- Brings a payload to the receiver over one connection. -/
def send (h : Harness) (payload : List UInt8) : Harness :=
  { h with receiver := (h.receiver.accept (Carbon.byteLines payload)).2 }

/-- Forgets the lines received. The script stays as it is. -/
def reset (h : Harness) : Harness := { h with receiver := { h.receiver with lines := [] } }

end Harness

end KeaGauge.Scripted
