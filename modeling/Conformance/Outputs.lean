/-
# Outputs

A system that is kept in memory: a volume of files, and what was written to the streams.  The room
on a stream and in the volume can be limited.  What there is no room for is refused, so a
destination may take the first part of a report and not the rest.
-/
import Conformance.System
import Conformance.Volume

namespace Conformance

/-- What the program writes to. -/
structure Outputs where
  /-- The files. -/
  volume : Volume
  /-- What was written to standard output. -/
  stdout : List UInt8 := []
  /-- The room that is left on standard output. -/
  stdoutRoom : Room := none
  /-- What was written to the console. -/
  console : List UInt8 := []
  deriving DecidableEq

/-- Where a report goes. -/
inductive Destination where
  /-- To a stream. -/
  | stream (s : StandardStream)
  /-- To a place in the volume. -/
  | place (place : List String)
  deriving DecidableEq

namespace Outputs

/-- The destination at a place, which is a stream if the place is that of one. -/
def destinationAt (outputs : Outputs) (place : List String) : Destination :=
  match outputs.volume.node? place with
  | some (.stream s) => .stream s
  | _ => .place place

/-- Offers bytes to a destination, and answers how many of them were taken. -/
def append (outputs : Outputs) (destination : Destination) (bytes : List UInt8) :
    Except FileFault (Nat × Outputs) :=
  match destination with
  | .stream .input => .ok (bytes.length, outputs)
  | .stream .output =>
    let taken := outputs.stdoutRoom.allows bytes.length
    if taken = 0 ∧ bytes ≠ [] then .error .noSpace
    else
      .ok (taken, { outputs with
        stdout := outputs.stdout ++ bytes.take taken
        stdoutRoom := outputs.stdoutRoom.less taken })
  | .stream .console => .ok (bytes.length, { outputs with console := outputs.console ++ bytes })
  | .place place =>
    (outputs.volume.append place bytes).map fun (taken, volume) => (taken, { outputs with volume })

/-- The writer of a destination.  What it takes is where it goes at once, so there is nothing left
to be flushed. -/
def writer (destination : Destination) : Writer Outputs where
  write bytes outputs :=
    match outputs.append destination bytes with
    | .ok (taken, outputs) => (.ok taken, outputs)
    | .error fault => (.error fault.message, outputs)
  flush outputs := (.ok (), outputs)

/-- The system in memory. -/
def system : System Outputs where
  create path outputs :=
    match outputs.volume.create path with
    | .error fault => (.error fault.message, outputs)
    | .ok (place, volume) => (.ok (writer (outputs.destinationAt place)), { outputs with volume })
  stdout := writer (.stream .output)
  console := writer (.stream .console)

end Outputs

end Conformance
