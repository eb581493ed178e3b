/-
# Systems

What a program can write to: files by their paths, standard output, and the console.  Nothing is
assumed about any of them.  A file may fail to open, each of the writers may take only a part of
what it is offered, fail at any byte or fail to be flushed, and all of this may depend on what
happened before.
-/
import Conformance.Report.Writer

namespace Conformance

/-- The outside of a program, with states in `ω`.  Failures are known by their text. -/
structure System (ω : Type) where
  /-- Opens a path for writing. -/
  create : String → ω → Except String (Writer ω) × ω
  /-- Standard output.  One that is closed takes everything. -/
  stdout : Writer ω
  /-- The console, which is standard error. -/
  console : Writer ω

namespace System

variable {ω : Type}

/-- Prints a text on standard output. -/
def print (system : System ω) (text : String) (s : ω) : Except String Unit × ω :=
  system.stdout.writeAll (Text.bytes text) s

/-- Shows a line on the console. -/
def say (system : System ω) (line : String) (s : ω) : Except String Unit × ω :=
  system.console.writeAll (Text.bytes (line ++ "\n")) s

/-- Opens the destination of a report: a file, or standard output if there is no path. -/
def openDestination (system : System ω) : Option String → ω → Except String (Writer ω) × ω
  | none, s => (.ok system.stdout, s)
  | some path, s => system.create path s

/-- How many bytes are collected before they are written to a destination. -/
def bufferSize : Nat := 8192

/-- Writes texts to a path: opens it, writes through a buffer, flushes, and closes. -/
def save (system : System ω) (path : String) (texts : List String) (s : ω) :
    Except String Unit × ω :=
  match system.create path s with
  | (.error cause, s) => (.error cause, s)
  | (.ok w, s) =>
    match (w.buffered bufferSize).writeTexts texts ([], s) with
    | (.error cause, t) => (.error cause, w.release t)
    | (.ok (), t) =>
      match (w.buffered bufferSize).flush t with
      | (result, t) => (result, w.release t)

end System

end Conformance
