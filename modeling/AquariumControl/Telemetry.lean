import AquariumControl.Decimal
import AquariumControl.Journal

/-!
# Telemetry

Samples wait in a buffer of limited size until the uplink takes them; when the buffer is full the
oldest sample makes room (`push`).

A board without an uplink prints the samples instead.  `printed` packs them into lines of limited
size: a sample that does not fit any more goes to the next line.  What is too long for a whole
line leaves there the pieces of it that do fit.
-/

set_option autoImplicit false

namespace AquariumControl

namespace Telemetry

/-- The most samples that wait for the uplink. -/
def bufferCapacity : Nat := 64

/-- Appends a sample, at the cost of the oldest one if the buffer is full. -/
def push (buffer : List Sample) (s : Sample) : List Sample :=
  if buffer.length < bufferCapacity then buffer ++ [s] else buffer.drop 1 ++ [s]

/-! ## Printing -/

/-- The most bytes of samples in a printed line. -/
def lineCapacity : Nat := 256

/-- The pieces in which a sample is written: the sensor, and its value with two decimals. -/
def pieces (s : Sample) : List String :=
  " S" :: s.sensor.text :: "=" :: Decimal.fixed 2 s.value

/-- Appends pieces until one does not fit; says whether all of them did. -/
def append (line : String) : List String → String × Bool
  | [] => (line, true)
  | p :: rest =>
    if line.utf8ByteSize + p.utf8ByteSize ≤ lineCapacity then
      append (line ++ p) rest
    else
      (line, false)

/-- Fills lines from the front, the first of which already holds `line`.  The last line is left
out if it is empty. -/
def pack (line : String) : List (List String) → List String
  | [] => if line.isEmpty then [] else [line]
  | sample :: rest =>
    match append line sample with
    | (line', true) => pack line' rest
    | (_, false) => line :: pack (append "" sample).1 rest

/-- The notices that print a batch. -/
def printed (batch : List Sample) : List Notice :=
  (pack "" (batch.map pieces)).map Notice.telemetryLine

end Telemetry

end AquariumControl
