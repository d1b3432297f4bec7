import KeaGauge.Carbon.Writer
import KeaGauge.Sink.Basic
import KeaGauge.Text.Utf8
/-!
# Receiving lines

A receiver cuts what a connection brings into lines. A line ends at a line
feed, and a carriage return in front of it is no part of the line; what
follows the last line feed is a line of its own unless it is empty. A line
that is no text ends the connection.
-/

namespace KeaGauge.Carbon

/-- The line without the carriage return that it may end with. -/
def dropReturn {α : Type} [DecidableEq α] (carriageReturn : α) (line : List α) : List α :=
  if line.getLast? = some carriageReturn then line.dropLast else line

/-- The lines of what a connection brings, given the two characters that have
to do with lines. -/
def cutLines {α : Type} [DecidableEq α] (lineFeed carriageReturn : α) (payload : List α) :
    List (List α) :=
  let parts := payload.splitOn lineFeed
  parts.dropLast.map (dropReturn carriageReturn) ++ (parts.getLast?.filter (!·.isEmpty)).toList

/-- The lines of a text. -/
def textLines (payload : String) : List String :=
  (cutLines '\n' '\r' payload.toList).map String.ofList

/-- The lines of bytes, up to the first that is no text. -/
def byteLines (payload : List UInt8) : List String :=
  (((cutLines 10 13 payload).map Text.decodeUtf8?).takeWhile Option.isSome).map
    fun line => String.ofList (line.getD [])

/-- A receiver: whether it accepts connections, and the lines it has got. -/
structure Receiver where
  isUp : Bool
  lines : List String
deriving DecidableEq, Repr

namespace Receiver

/-- A receiver that has got no lines yet. -/
def fresh : Receiver := ⟨true, []⟩

/-- A receiver that accepts no connection. -/
def down : Receiver := ⟨false, []⟩

/-- The refusal of a connection. -/
def refusal : SinkError := .io "Connection refused (os error 111)"

/-- Brings lines to a receiver over one connection. -/
def accept (r : Receiver) (lines : List String) : Except SinkError Unit × Receiver :=
  if r.isUp then (.ok (), { r with lines := r.lines ++ lines }) else (.error refusal, r)

end Receiver

/-- **A receiver as the sink of a writer.** Without payload there is no
connection. -/
def Writer.sink (w : Writer) : Sink Receiver := fun r batch =>
  let payload := w.payload batch
  if payload.isEmpty then (.ok (), r) else r.accept (textLines payload)

end KeaGauge.Carbon
