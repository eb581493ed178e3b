/-
# What reaches a destination

A report goes to its destination through a buffer.  A destination may be any writer: it may take the
bytes in pieces, fail at any of them, or fail to be flushed.

Two things are said about the buffer.  It hides nothing: if the writer behind it holds what it says
it has taken, then so does the buffered writer, once the bytes that are still in the buffer are
counted (`Writer.Holds.buffered`).  And it keeps small things together: bytes that fit into the
buffer all reach the writer at the end, in one piece.  What becomes of this piece is
`Writer.deliver`, and it succeeds exactly if the writer takes all the bytes and is flushed
(`Writer.deliver_eq_ok_iff`).
-/
import Conformance.Proofs.Writing
import Conformance.System

namespace Conformance

namespace Writer

variable {ω : Type} {w : Writer ω} {bytes : List UInt8} {s t : ω}

/-! ## Emptying a buffer -/

/-- As long as nothing fails, to empty a buffer is to write its bytes. -/
lemma drain_eq_ok_iff {rest : List UInt8} :
    w.drain bytes s = (.ok (), rest, t) ↔ rest = [] ∧ w.writeAll bytes s = (.ok (), t) := by
  fun_induction drain w bytes s with
  | case1 s => simp [writeAll, eq_comm]
  | case2 b more s cause s' hwrite => simp [writeAll, hwrite]
  | case3 b more s s' hwrite => simp [writeAll, hwrite]
  | case4 b more s taken s' hwrite ih =>
    rw [ih, writeAll, hwrite]

lemma drain_nil (s : ω) : w.drain [] s = (.ok (), [], s) := by
  rw [drain]

@[simp] lemma release_nil (s : ω) : w.release ([], s) = s := by
  rw [release, drain_nil]

/-- A buffer that was flushed is empty. -/
lemma fst_eq_nil_of_flush_buffered {capacity : ℕ} {b b' : List UInt8 × ω}
    (h : (w.buffered capacity).flush b = (.ok (), b')) : b'.1 = [] := by
  simp only [buffered] at h
  rcases hdrain : w.drain b.1 b.2 with ⟨_ | ⟨⟩, rest, u⟩ <;> rw [hdrain] at h
  · cases congrArg Prod.fst h
  · obtain ⟨-, rfl⟩ := Prod.mk.inj h
    exact (drain_eq_ok_iff.mp hdrain).1

/-! ## A buffer hides nothing -/

namespace Holds

variable {held : ω → List UInt8}

lemma drain_of_ok (h : w.Holds held) {rest : List UInt8}
    (hdrain : w.drain bytes s = (.ok (), rest, t)) : rest = [] ∧ held t = held s ++ bytes := by
  obtain ⟨hrest, hall⟩ := drain_eq_ok_iff.mp hdrain
  exact ⟨hrest, h.writeAll_of_ok hall⟩

/-- What a buffered writer has taken is held by the writer or still in the buffer. -/
lemma buffered (h : w.Holds held) (capacity : ℕ) :
    (w.buffered capacity).Holds fun b => held b.2 ++ b.1 where
  write := by
    intro bytes b b' taken hne hwrite
    simp only [Writer.buffered] at hwrite
    split at hwrite
    · -- the bytes fit
      obtain ⟨htaken, rfl⟩ := Prod.mk.inj hwrite
      obtain rfl := Except.ok.inj htaken
      simp
    · rcases hdrain : w.drain b.1 b.2 with ⟨_ | ⟨⟩, rest, u⟩ <;> rw [hdrain] at hwrite
      · cases congrArg Prod.fst hwrite
      · obtain ⟨rfl, hheld⟩ := h.drain_of_ok hdrain
        rcases hpast : w.write bytes u with ⟨answer, v⟩
        simp only [hpast] at hwrite
        split at hwrite
        · -- the buffer is emptied and takes the bytes
          obtain ⟨htaken, rfl⟩ := Prod.mk.inj hwrite
          obtain rfl := Except.ok.inj htaken
          simp [hheld]
        · -- the buffer is emptied, and the bytes go past it
          obtain ⟨rfl, rfl⟩ := Prod.mk.inj hwrite
          simp [h.write hne hpast, hheld]
  flush := by
    intro b b' hflush
    have hempty := fst_eq_nil_of_flush_buffered hflush
    simp only [Writer.buffered] at hflush
    rcases hdrain : w.drain b.1 b.2 with ⟨_ | ⟨⟩, rest, u⟩ <;> rw [hdrain] at hflush
    · cases congrArg Prod.fst hflush
    · obtain ⟨-, hheld⟩ := h.drain_of_ok hdrain
      rcases hthrough : w.flush u with ⟨result, v⟩
      simp only [hthrough] at hflush
      obtain ⟨rfl, rfl⟩ := Prod.mk.inj hflush
      have hsame : held v = held u := h.flush hthrough
      simp only at hempty
      simp [hempty, hsame, hheld]

end Holds

/-! ## One piece -/

/-- A writer takes all of some bytes, and is flushed. -/
def Takes (w : Writer ω) (bytes : List UInt8) (s t : ω) : Prop :=
  ∃ u, w.writeAll bytes s = (.ok (), u) ∧ w.flush u = (.ok (), t)

/-- Hands a full buffer to a writer, flushes it, and gives the buffer up. -/
def deliver (w : Writer ω) (bytes : List UInt8) (s : ω) : Except String Unit × ω :=
  match w.drain bytes s with
  | (.error cause, rest, t) => (.error cause, w.release (rest, t))
  | (.ok (), _, t) => w.flush t

lemma deliver_eq_ok_iff : w.deliver bytes s = (.ok (), t) ↔ w.Takes bytes s t := by
  rw [deliver]
  rcases hdrain : w.drain bytes s with ⟨cause | ⟨⟩, rest, u⟩
  · have hnot : ¬ w.Takes bytes s t := by
      rintro ⟨v, hall, -⟩
      cases congrArg Prod.fst (hdrain.symm.trans (drain_eq_ok_iff.mpr ⟨rfl, hall⟩))
    simp [hnot]
  · obtain ⟨-, hall⟩ := drain_eq_ok_iff.mp hdrain
    simp [Takes, hall]

/-- What a writer takes is held by it afterwards. -/
lemma Holds.takes {held : ω → List UInt8} (h : w.Holds held) (htakes : w.Takes bytes s t) :
    held t = held s ++ bytes := by
  obtain ⟨u, hall, hflush⟩ := htakes
  rw [h.flush hflush, h.writeAll_of_ok hall]

/-- A writer with a limit that can always be flushed takes just what the limit allows. -/
lemma Keeps.exists_takes_iff {view : ω → Held} {limit : Option ℕ}
    {flushed : Held → Except String Unit} (h : w.Keeps view limit flushed) (bytes : List UInt8)
    (hheld : Fits limit (view s).bytes.length) (hflushed : ∀ held, flushed held = .ok ()) :
    (∃ t, w.Takes bytes s t) ↔ Fits limit ((view s).bytes.length + bytes.length) := by
  constructor
  · rintro ⟨t, u, hall, -⟩ n rfl
    by_contra hover
    obtain ⟨cause, v, hfails, -⟩ :=
      h.writeAll_of_exceeds bytes s (fits_some.mp hheld) (Nat.lt_of_not_le hover)
    cases congrArg Prod.fst (hall.symm.trans hfails)
  · intro hfits
    obtain ⟨u, hall, -⟩ := h.writeAll_of_fits bytes s hfits
    obtain ⟨t, hflush, -⟩ := h.flush u
    rw [hflushed] at hflush
    exact ⟨t, u, hall, hflush⟩

section Buffer

variable {capacity : ℕ} {b : List UInt8 × ω}

/-- Bytes that fit stay in the buffer. -/
lemma writeAll_buffered_of_fits (h : b.1.length + bytes.length < capacity) :
    (w.buffered capacity).writeAll bytes b = (.ok (), b.1 ++ bytes, b.2) := by
  cases bytes with
  | nil => simp [writeAll]
  | cons x rest =>
    have hwrite : (w.buffered capacity).write (x :: rest) b
        = (.ok (rest.length + 1), b.1 ++ x :: rest, b.2) := by
      simp only [buffered]
      rw [if_pos ⟨by omega, by omega⟩]
      rfl
    rw [writeAll, hwrite]
    simp [writeAll]

lemma writeTexts_buffered_of_fits {texts : List String}
    (h : b.1.length + (texts.flatMap Text.bytes).length < capacity) :
    (w.buffered capacity).writeTexts texts b = (.ok (), b.1 ++ texts.flatMap Text.bytes, b.2) := by
  induction texts generalizing b with
  | nil => simp [writeTexts]
  | cons text texts ih =>
    rw [List.flatMap_cons, List.length_append] at h
    rw [writeTexts, writeAll_buffered_of_fits (by omega)]
    simp only
    rw [ih (by simp only [List.length_append]; omega), List.flatMap_cons, List.append_assoc]

/-- Flushing a buffer and giving it up is delivering what is in it. -/
lemma flush_buffered_release (w : Writer ω) (capacity : ℕ) (bytes : List UInt8) (s : ω) :
    (((w.buffered capacity).flush (bytes, s)).1,
      w.release ((w.buffered capacity).flush (bytes, s)).2) = w.deliver bytes s := by
  simp only [buffered, deliver]
  rcases hdrain : w.drain bytes s with ⟨cause | ⟨⟩, rest, u⟩
  · rfl
  · obtain ⟨rfl, -⟩ := drain_eq_ok_iff.mp hdrain
    simp

end Buffer

end Writer

/-- An event that fits stays in the buffer. -/
lemma Sink.accept_report_buffered_of_fits {ω : Type} {w : Writer ω} {format : Format}
    {capacity : ℕ} {event : Event} {b : List UInt8 × ω} (hevent : event ≠ .finish)
    (h : b.1.length + (event.bytes format).length < capacity) :
    (report format (w.buffered capacity)).accept event b
      = (.ok (), b.1 ++ event.bytes format, b.2) := by
  simp only [report, write_of_ne_finish format hevent]
  rw [Writer.writeTexts_buffered_of_fits h]
  rfl

/-- What was saved is all there, behind what the file held when it was opened, however long it
is. -/
theorem System.held_of_save {ω : Type} {system : System ω} {path : String} {texts : List String}
    {s opened t : ω} {w : Writer ω} {held : ω → List UInt8} (hw : w.Holds held)
    (hcreate : system.create path s = (.ok w, opened))
    (hsave : system.save path texts s = (.ok (), t)) :
    held t = held opened ++ texts.flatMap Text.bytes := by
  simp only [System.save, hcreate] at hsave
  rcases hwrite : (w.buffered bufferSize).writeTexts texts ([], opened) with ⟨_ | ⟨⟩, b⟩
  · simp only [hwrite] at hsave
    cases congrArg Prod.fst hsave
  · rcases hflush : (w.buffered bufferSize).flush b with ⟨result, b'⟩
    simp only [hwrite, hflush] at hsave
    obtain ⟨rfl, rfl⟩ := Prod.mk.inj hsave
    have hempty : b' = ([], b'.2) :=
      Prod.ext (Writer.fst_eq_nil_of_flush_buffered hflush) rfl
    have hheld : held b'.2 ++ b'.1 = held opened ++ [] ++ texts.flatMap Text.bytes := by
      rw [(hw.buffered bufferSize).flush hflush, (hw.buffered bufferSize).writeTexts_of_ok hwrite]
    rw [hempty] at hheld ⊢
    simpa using hheld

end Conformance
