/-
# Writers

A writer takes bytes.  It may take only the first few of those it is offered, and it may fail, so
`Writer.writeAll` offers the rest again until all are taken; a writer that takes none of them is
given up on.

Two writers are built here: `bounded` holds a limited number of bytes, and `buffered` collects
bytes in front of another writer.
-/
import Conformance.Text.Bytes

namespace Conformance

/-- A machine with states in `ω` that takes bytes.  Failures are known by their text. -/
structure Writer (ω : Type) where
  /-- Offers bytes, and answers how many of them were taken. -/
  write : List UInt8 → ω → Except String Nat × ω
  /-- Hands on everything that was taken so far. -/
  flush : ω → Except String Unit × ω

namespace Writer

variable {ω : Type}

/-- Offers bytes until all are taken.  Nothing is offered when there are none. -/
def writeAll (w : Writer ω) : List UInt8 → ω → Except String Unit × ω
  | [], s => (.ok (), s)
  | b :: rest, s =>
    match w.write (b :: rest) s with
    | (.error cause, s) => (.error cause, s)
    | (.ok 0, s) => (.error "failed to write whole buffer", s)
    | (.ok (taken + 1), s) => writeAll w (rest.drop taken) s
termination_by bytes => bytes.length
decreasing_by simp only [List.length_drop, List.length_cons]; omega

/-- Writes texts one after the other, up to the first failure. -/
def writeTexts (w : Writer ω) : List String → ω → Except String Unit × ω
  | [], s => (.ok (), s)
  | text :: rest, s =>
    match w.writeAll (Text.bytes text) s with
    | (.error cause, s) => (.error cause, s)
    | (.ok (), s) => writeTexts w rest s

/-- What a full writer does with the next bytes. -/
inductive WhenFull where
  /-- It fails. -/
  | refuse
  /-- It takes none of them. -/
  | takeNone
  deriving DecidableEq

/-- The limits of a bounded writer. -/
structure Bounds where
  /-- How many bytes it holds, `none` for any number. -/
  limit : Option Nat
  /-- What it does when it is full. -/
  whenFull : WhenFull
  /-- Whether flushing fails. -/
  flushFails : Bool
  deriving DecidableEq

/-- No limits. -/
def Bounds.unlimited : Bounds := ⟨none, .refuse, false⟩

/-- The bytes a bounded writer holds, and how often it was flushed. -/
structure Held where
  /-- The bytes, in order. -/
  bytes : List UInt8 := []
  /-- The number of flushes, failed ones included. -/
  flushes : Nat := 0
  deriving DecidableEq

/-- How many of `offered` bytes still fit. -/
def Bounds.room (bounds : Bounds) (held : Held) (offered : Nat) : Nat :=
  match bounds.limit with
  | none => offered
  | some limit => min offered (limit - held.bytes.length)

/-- A writer that keeps what it takes, up to its limit. -/
def bounded (bounds : Bounds) : Writer Held where
  write bytes held :=
    let room := bounds.room held bytes.length
    if room = 0 ∧ bytes ≠ [] ∧ bounds.whenFull = .refuse then (.error "closed", held)
    else (.ok room, { held with bytes := held.bytes ++ bytes.take room })
  flush held :=
    (if bounds.flushFails then .error "flush failed" else .ok (),
      { held with flushes := held.flushes + 1 })

/-- Empties a buffer into a writer.  What was taken has left the buffer, also if the rest is
refused. -/
def drain (w : Writer ω) : List UInt8 → ω → Except String Unit × List UInt8 × ω
  | [], s => (.ok (), [], s)
  | b :: rest, s =>
    match w.write (b :: rest) s with
    | (.error cause, s) => (.error cause, b :: rest, s)
    | (.ok 0, s) => (.error "failed to write the buffered data", b :: rest, s)
    | (.ok (taken + 1), s) => drain w (rest.drop taken) s
termination_by bytes => bytes.length
decreasing_by simp only [List.length_drop, List.length_cons]; omega

/-- A writer with a buffer of `capacity` bytes in front.  Bytes that do not fit are preceded by
what the buffer holds, and go past the buffer if they would fill it on their own. -/
def buffered (capacity : Nat) (w : Writer ω) : Writer (List UInt8 × ω) where
  write bytes s :=
    if s.1.length + bytes.length ≤ capacity ∧ bytes.length < capacity then
      (.ok bytes.length, s.1 ++ bytes, s.2)
    else
      match w.drain s.1 s.2 with
      | (.error cause, s) => (.error cause, s)
      | (.ok (), s) =>
        if bytes.length < capacity then (.ok bytes.length, bytes, s.2)
        else
          match w.write bytes s.2 with
          | (taken, t) => (taken, [], t)
  flush s :=
    match w.drain s.1 s.2 with
    | (.error cause, s) => (.error cause, s)
    | (.ok (), s) =>
      match w.flush s.2 with
      | (result, t) => (result, s.1, t)

/-- Gives up the buffer in front of a writer.  What is still in it is offered once more, and nobody
looks at what becomes of it. -/
def release (w : Writer ω) (s : List UInt8 × ω) : ω := (w.drain s.1 s.2).2.2

end Writer

end Conformance
