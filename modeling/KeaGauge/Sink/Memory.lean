import KeaGauge.Sink.Basic
/-!
# Shared memory

Several handles may stand for one memory of metrics: what is done through one
of them shows through all. A handle is known by its number, in the order in
which handles are made.
-/

namespace KeaGauge

/-- Memories, and the memory that each handle stands for. -/
structure SharedMemory where
  memories : List (List Metric)
  handles : List Nat
deriving DecidableEq

namespace SharedMemory

/-- One handle, for an empty memory. -/
def single : SharedMemory := ⟨[[]], [0]⟩

/-- The memory that a handle stands for. -/
def memoryOf (s : SharedMemory) (handle : Nat) : Nat := s.handles.getD handle 0

/-- What the memory of a handle holds. -/
def held (s : SharedMemory) (handle : Nat) : List Metric :=
  s.memories.getD (s.memoryOf handle) []

/-- What the memory of each handle holds, in the order of the handles. -/
def view (s : SharedMemory) : List (List Metric) :=
  s.handles.map fun memory => s.memories.getD memory []

/-- Makes a handle for the memory of a handle. -/
def clone (s : SharedMemory) (handle : Nat) : SharedMemory :=
  { s with handles := s.handles ++ [s.memoryOf handle] }

/-- Makes a handle for an empty memory. -/
def addNew (s : SharedMemory) : SharedMemory :=
  ⟨s.memories ++ [[]], s.handles ++ [s.memories.length]⟩

/-- Changes the memory of a handle. -/
def change (s : SharedMemory) (handle : Nat) (f : List Metric → List Metric) : SharedMemory :=
  { s with memories := s.memories.modify (s.memoryOf handle) f }

/-- Empties the memory of a handle. -/
def clear (s : SharedMemory) (handle : Nat) : SharedMemory := s.change handle fun _ => []

/-- Puts a batch into the memory of a handle. -/
def emit (s : SharedMemory) (handle : Nat) (batch : List Metric) : SharedMemory :=
  s.change handle (· ++ batch)

end SharedMemory

end KeaGauge
