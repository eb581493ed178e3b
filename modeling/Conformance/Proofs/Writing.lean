/-
# What a writer keeps

A writer may take the bytes it is offered in pieces of any size, and one with a limit takes none at
all when the limit is reached.  `Writer.Keeps` is the contract of such writers, in terms of a view
of their state: the bytes they hold and how often they were flushed.  The limit is `none` for a
writer that takes everything in the end.

Offering the bytes again until all are taken hides the pieces.  So do the lemmas below: what a
writer holds afterwards is what it held before and all the bytes, cut off at the limit, and the
write fails exactly if something was cut off.  They say so in turn for bytes, for a list of texts,
and for an event of a report.
-/
import Conformance.Report.Sink
import Mathlib.Data.List.Basic

namespace Conformance

/-- Whether so many bytes are allowed by a limit. -/
def Fits (limit : Option ℕ) (size : ℕ) : Prop := ∀ n, limit = some n → size ≤ n

@[simp] lemma fits_none (size : ℕ) : Fits none size := by
  rintro n ⟨⟩

@[simp] lemma fits_some {n size : ℕ} : Fits (some n) size ↔ size ≤ n := by
  constructor
  · intro h
    exact h n rfl
  · rintro h m ⟨⟩
    exact h

lemma Fits.mono {limit : Option ℕ} {m n : ℕ} (h : Fits limit n) (hmn : m ≤ n) : Fits limit m :=
  fun k hk => Nat.le_trans hmn (h k hk)

namespace Writer

variable {ω : Type}

/-- The bytes that are held, and some more. -/
def Held.add (held : Held) (bytes : List UInt8) : Held := { held with bytes := held.bytes ++ bytes }

@[simp] lemma Held.bytes_add (held : Held) (bytes : List UInt8) :
    (held.add bytes).bytes = held.bytes ++ bytes := rfl

@[simp] lemma Held.flushes_add (held : Held) (bytes : List UInt8) :
    (held.add bytes).flushes = held.flushes := rfl

@[simp] lemma Held.add_nil (held : Held) : held.add [] = held := by
  simp [Held.add]

lemma Held.add_add (held : Held) (bytes rest : List UInt8) :
    (held.add bytes).add rest = held.add (bytes ++ rest) := by
  simp [Held.add]

/-- A writer that keeps what it takes: of the bytes it is offered it takes some of the first ones,
as long as the limit allows one more, and then none.  Flushing changes nothing but the number of
flushes, and its result depends on what the writer holds. -/
structure Keeps (w : Writer ω) (view : ω → Held) (limit : Option ℕ)
    (flushed : Held → Except String Unit) : Prop where
  take : ∀ (bytes : List UInt8) (t : ω), bytes ≠ [] →
    Fits limit ((view t).bytes.length + 1) →
    ∃ (taken : ℕ) (t' : ω), 0 < taken ∧ taken ≤ bytes.length ∧
      Fits limit ((view t).bytes.length + taken) ∧
      w.write bytes t = (.ok taken, t') ∧ view t' = (view t).add (bytes.take taken)
  full : ∀ (bytes : List UInt8) (t : ω), bytes ≠ [] →
    ¬ Fits limit ((view t).bytes.length + 1) →
    ∃ (answer : Except String ℕ) (t' : ω), (answer = .ok 0 ∨ ∃ cause, answer = .error cause) ∧
      w.write bytes t = (answer, t') ∧ view t' = view t
  flush : ∀ t : ω, ∃ t', w.flush t = (flushed (view t), t') ∧
    view t' = { view t with flushes := (view t).flushes + 1 }

namespace Keeps

variable {w : Writer ω} {view : ω → Held} {limit : Option ℕ}
  {flushed : Held → Except String Unit}

/-- Bytes that the limit allows are all taken. -/
lemma writeAll_of_fits (h : w.Keeps view limit flushed) (bytes : List UInt8) (t : ω)
    (hfits : Fits limit ((view t).bytes.length + bytes.length)) :
    ∃ t', w.writeAll bytes t = (.ok (), t') ∧ view t' = (view t).add bytes := by
  -- the induction is on the number of bytes left: a piece may have any size but zero
  induction hn : bytes.length using Nat.strongRecOn generalizing bytes t with
  | _ n ih =>
    subst hn
    cases bytes with
    | nil => exact ⟨t, by rw [writeAll], by simp⟩
    | cons b rest =>
      obtain ⟨taken, t₁, hpos, hle, hfits₁, hwrite, hview⟩ :=
        h.take (b :: rest) t (by simp) (hfits.mono (by simp))
      obtain ⟨k, rfl⟩ : ∃ k, taken = k + 1 := ⟨taken - 1, by omega⟩
      have hlen : (rest.drop k).length = rest.length - k := List.length_drop
      have hlen₁ : (view t₁).bytes.length = (view t).bytes.length + (k + 1) := by
        rw [hview, Held.bytes_add, List.length_append, List.length_take, Nat.min_eq_left hle]
      rw [List.length_cons] at hle hfits ih
      obtain ⟨t', hall, hview'⟩ := ih (rest.drop k).length (by omega) (rest.drop k) t₁
        (hfits.mono (by omega)) rfl
      refine ⟨t', ?_, ?_⟩
      · rw [writeAll, hwrite]
        exact hall
      · rw [hview', hview, Held.add_add, List.take_succ_cons, List.cons_append,
          List.take_append_drop]

/-- Bytes that the limit does not allow are taken as far as it does, and the write fails. -/
lemma writeAll_of_exceeds {n : ℕ} (h : w.Keeps view (some n) flushed) (bytes : List UInt8) (t : ω)
    (hheld : (view t).bytes.length ≤ n) (hover : n < (view t).bytes.length + bytes.length) :
    ∃ cause t', w.writeAll bytes t = (.error cause, t') ∧
      view t' = (view t).add (bytes.take (n - (view t).bytes.length)) := by
  induction hn : bytes.length using Nat.strongRecOn generalizing bytes t with
  | _ m ih =>
    subst hn
    cases bytes with
    | nil =>
      simp only [List.length_nil] at hover
      omega
    | cons b rest =>
      by_cases hroom : (view t).bytes.length + 1 ≤ n
      · obtain ⟨taken, t₁, hpos, hle, hfits₁, hwrite, hview⟩ :=
          h.take (b :: rest) t (by simp) (fits_some.mpr hroom)
        obtain ⟨k, rfl⟩ : ∃ k, taken = k + 1 := ⟨taken - 1, by omega⟩
        have hlen : (rest.drop k).length = rest.length - k := List.length_drop
        have hlen₁ : (view t₁).bytes.length = (view t).bytes.length + (k + 1) := by
          rw [hview, Held.bytes_add, List.length_append, List.length_take, Nat.min_eq_left hle]
        rw [List.length_cons] at hle hover ih
        rw [fits_some] at hfits₁
        obtain ⟨cause, t', hall, hview'⟩ := ih (rest.drop k).length (by omega)
          (rest.drop k) t₁ (by omega) (by omega) rfl
        refine ⟨cause, t', ?_, ?_⟩
        · rw [writeAll, hwrite]
          exact hall
        · have hsplit : n - (view t).bytes.length = (k + 1) + (n - (view t₁).bytes.length) := by
            omega
          rw [hsplit, hview']
          generalize n - (view t₁).bytes.length = j
          have htake : (b :: rest).take (k + 1 + j)
              = (b :: rest).take (k + 1) ++ (rest.drop k).take j :=
            List.take_add
          rw [hview, Held.add_add, htake]
      · obtain ⟨answer, t', hanswer, hwrite, hview⟩ :=
          h.full (b :: rest) t (by simp) (fun hfits => hroom (fits_some.mp hfits))
        have hzero : n - (view t).bytes.length = 0 := by omega
        have hview' : view t' = (view t).add ((b :: rest).take (n - (view t).bytes.length)) := by
          rw [hzero, List.take_zero, Held.add_nil, hview]
        rcases hanswer with rfl | ⟨cause, rfl⟩
        · exact ⟨_, t', by rw [writeAll, hwrite], hview'⟩
        · exact ⟨cause, t', by rw [writeAll, hwrite], hview'⟩

/-- Texts that the limit allows are all taken. -/
lemma writeTexts_of_fits (h : w.Keeps view limit flushed) (texts : List String) (t : ω)
    (hfits : Fits limit ((view t).bytes.length + (texts.flatMap Text.bytes).length)) :
    ∃ t', w.writeTexts texts t = (.ok (), t') ∧
      view t' = (view t).add (texts.flatMap Text.bytes) := by
  induction texts generalizing t with
  | nil => exact ⟨t, rfl, by simp⟩
  | cons text texts ih =>
    rw [List.flatMap_cons, List.length_append] at hfits
    obtain ⟨t₁, hwrite, hview⟩ := h.writeAll_of_fits (Text.bytes text) t (hfits.mono (by omega))
    obtain ⟨t', hrest, hview'⟩ := ih t₁ (hfits.mono (by simp [hview]; omega))
    refine ⟨t', ?_, ?_⟩
    · rw [writeTexts, hwrite]
      exact hrest
    · rw [hview', hview, Held.add_add, List.flatMap_cons]

/-- Texts that the limit does not allow are taken as far as it does, wherever the cut falls, and the
write fails. -/
lemma writeTexts_of_exceeds {n : ℕ} (h : w.Keeps view (some n) flushed) (texts : List String)
    (t : ω) (hheld : (view t).bytes.length ≤ n)
    (hover : n < (view t).bytes.length + (texts.flatMap Text.bytes).length) :
    ∃ cause t', w.writeTexts texts t = (.error cause, t') ∧
      view t' = (view t).add ((texts.flatMap Text.bytes).take (n - (view t).bytes.length)) := by
  induction texts generalizing t with
  | nil =>
    simp only [List.flatMap_nil, List.length_nil] at hover
    omega
  | cons text texts ih =>
    rw [List.flatMap_cons, List.length_append] at hover
    by_cases hroom : (view t).bytes.length + (Text.bytes text).length ≤ n
    · -- the cut falls into a later text
      obtain ⟨t₁, hwrite, hview⟩ :=
        h.writeAll_of_fits (Text.bytes text) t (fits_some.mpr hroom)
      have hlen : (view t₁).bytes.length = (view t).bytes.length + (Text.bytes text).length := by
        rw [hview, Held.bytes_add, List.length_append]
      obtain ⟨cause, t', hrest, hview'⟩ := ih t₁ (by omega) (by omega)
      refine ⟨cause, t', ?_, ?_⟩
      · rw [writeTexts, hwrite]
        exact hrest
      · have hsplit : n - (view t).bytes.length
            = (Text.bytes text).length + (n - (view t₁).bytes.length) := by omega
        rw [hview', hsplit, List.flatMap_cons, List.take_length_add_append, hview, Held.add_add]
    · obtain ⟨cause, t', hwrite, hview⟩ :=
        h.writeAll_of_exceeds (Text.bytes text) t hheld (by omega)
      refine ⟨cause, t', ?_, ?_⟩
      · rw [writeTexts, hwrite]
      · rw [hview, List.flatMap_cons, List.take_append_of_le_length (by omega)]

end Keeps

/-- There is room in a bounded writer as long as its limit allows one more byte. -/
lemma Bounds.room_pos {bounds : Bounds} {held : Held} {offered : ℕ} (hoffered : 0 < offered)
    (hfits : Fits bounds.limit (held.bytes.length + 1)) : 0 < bounds.room held offered := by
  rw [Bounds.room]
  rcases hlimit : bounds.limit with _ | n
  · exact hoffered
  · have hn := hfits n hlimit
    simp only [Nat.lt_min]
    omega

lemma Bounds.room_le (bounds : Bounds) (held : Held) (offered : ℕ) :
    bounds.room held offered ≤ offered := by
  rw [Bounds.room]
  cases bounds.limit with
  | none => exact Nat.le_refl offered
  | some n => exact Nat.min_le_left offered _

lemma Bounds.fits_room {bounds : Bounds} {held : Held} (offered : ℕ)
    (hfits : Fits bounds.limit (held.bytes.length + 1)) :
    Fits bounds.limit (held.bytes.length + bounds.room held offered) := by
  intro n hn
  have hle := hfits n hn
  simp only [Bounds.room, hn]
  omega

lemma Bounds.room_of_full {bounds : Bounds} {held : Held} (offered : ℕ)
    (hfull : ¬ Fits bounds.limit (held.bytes.length + 1)) : bounds.room held offered = 0 := by
  rw [Bounds.room]
  rcases hlimit : bounds.limit with _ | n
  · rw [hlimit] at hfull
    exact absurd (fits_none _) hfull
  · rw [hlimit, fits_some] at hfull
    simp only
    omega

/-- A bounded writer keeps what it takes, up to its limit. -/
lemma keeps_bounded (bounds : Bounds) :
    (bounded bounds).Keeps id bounds.limit
      (fun _ => if bounds.flushFails then .error "flush failed" else .ok ()) where
  take bytes held hne hfits := by
    have hpos : 0 < bounds.room held bytes.length :=
      Bounds.room_pos (List.length_pos_iff.mpr hne) hfits
    refine ⟨bounds.room held bytes.length, held.add (bytes.take (bounds.room held bytes.length)),
      hpos, bounds.room_le held bytes.length, Bounds.fits_room bytes.length hfits, ?_, rfl⟩
    simp only [bounded]
    rw [if_neg (fun h => absurd h.1 (by omega))]
    rfl
  full bytes held hne hfull := by
    have hroom : bounds.room held bytes.length = 0 := Bounds.room_of_full bytes.length hfull
    simp only [bounded, hroom]
    split
    · exact ⟨_, held, .inr ⟨_, rfl⟩, rfl, rfl⟩
    · exact ⟨_, held, .inl rfl, by simp, rfl⟩
  flush held := ⟨_, rfl, rfl⟩

/-! ## Writers that may fail at any time -/

/-- A writer that holds what it says it has taken.  Nothing is said about when it fails, or about
what a failed write leaves behind. -/
structure Holds (w : Writer ω) (view : ω → List UInt8) : Prop where
  write : ∀ {bytes : List UInt8} {t t' : ω} {taken : ℕ}, bytes ≠ [] →
    w.write bytes t = (.ok taken, t') → view t' = view t ++ bytes.take taken
  flush : ∀ {t t' : ω}, w.flush t = (.ok (), t') → view t' = view t

lemma Keeps.holds {w : Writer ω} {view : ω → Held} {limit : Option ℕ}
    {flushed : Held → Except String Unit} (h : w.Keeps view limit flushed) :
    w.Holds (fun t => (view t).bytes) where
  write := by
    intro bytes t t' taken hne hwrite
    by_cases hfits : Fits limit ((view t).bytes.length + 1)
    · obtain ⟨n, t₁, -, -, -, hwrite₁, hview⟩ := h.take bytes t hne hfits
      obtain ⟨hn, rfl⟩ := Prod.mk.inj (hwrite.symm.trans hwrite₁)
      obtain rfl := Except.ok.inj hn
      exact congrArg Held.bytes hview
    · obtain ⟨answer, t₁, hanswer, hwrite₁, hview⟩ := h.full bytes t hne hfits
      obtain ⟨rfl, rfl⟩ := Prod.mk.inj (hwrite₁.symm.trans hwrite)
      rcases hanswer with hzero | ⟨cause, hcause⟩
      · obtain rfl := Except.ok.inj hzero
        simp [hview]
      · cases hcause
  flush := by
    intro t t' hflush
    obtain ⟨t₁, hflush₁, hview⟩ := h.flush t
    obtain ⟨-, rfl⟩ := Prod.mk.inj (hflush₁.symm.trans hflush)
    simp [hview]

namespace Holds

variable {w : Writer ω} {view : ω → List UInt8}

lemma writeAll_of_ok (h : w.Holds view) {bytes : List UInt8} {t t' : ω}
    (hok : w.writeAll bytes t = (.ok (), t')) : view t' = view t ++ bytes := by
  induction hn : bytes.length using Nat.strongRecOn generalizing bytes t with
  | _ n ih =>
    subst hn
    cases bytes with
    | nil =>
      rw [writeAll] at hok
      obtain ⟨-, rfl⟩ := Prod.mk.inj hok
      simp
    | cons b rest =>
      rw [writeAll] at hok
      rcases hwrite : w.write (b :: rest) t with ⟨_ | _ | taken, t₁⟩ <;> simp only [hwrite] at hok
      · cases congrArg Prod.fst hok
      · cases congrArg Prod.fst hok
      · have hview := h.write (by simp) hwrite
        have hlen : (rest.drop taken).length < (b :: rest).length := by
          simp only [List.length_drop, List.length_cons]
          omega
        rw [ih _ hlen hok rfl, hview, List.append_assoc, List.take_succ_cons, List.cons_append,
          List.take_append_drop]

lemma writeTexts_of_ok (h : w.Holds view) {texts : List String} {t t' : ω}
    (hok : w.writeTexts texts t = (.ok (), t')) : view t' = view t ++ texts.flatMap Text.bytes := by
  induction texts generalizing t with
  | nil =>
    obtain ⟨-, rfl⟩ := Prod.mk.inj hok
    simp
  | cons text texts ih =>
    rw [writeTexts] at hok
    rcases hwrite : w.writeAll (Text.bytes text) t with ⟨_ | ⟨⟩, t₁⟩ <;> simp only [hwrite] at hok
    · cases congrArg Prod.fst hok
    · rw [ih hok, h.writeAll_of_ok hwrite, List.flatMap_cons, List.append_assoc]

end Holds

end Writer

/-! ## Events -/

/-- The bytes that an event puts into the report. -/
def Event.bytes (format : Format) (event : Event) : List UInt8 :=
  (event.fragments format).flatMap Text.bytes

@[simp] lemma Event.bytes_finish (format : Format) : Event.finish.bytes format = [] := by
  cases format <;> rfl

namespace Sink

variable {ω : Type} {w : Writer ω} {view : ω → Writer.Held} {limit : Option ℕ}
  {flushed : Writer.Held → Except String Unit} (format : Format)

lemma write_of_ne_finish {event : Event} (hevent : event ≠ .finish) (t : ω) :
    write format w event t = w.writeTexts (event.fragments format) t := by
  cases event with
  | heading text => rfl
  | record r => rfl
  | finish => exact absurd rfl hevent

/-- An event that the limit allows is written. -/
lemma accept_report_of_fits (h : w.Keeps view limit flushed) {event : Event}
    (hevent : event ≠ .finish) (t : ω)
    (hfits : Fits limit ((view t).bytes.length + (event.bytes format).length)) :
    ∃ t', (report format w).accept event t = (.ok (), t') ∧
      view t' = (view t).add (event.bytes format) := by
  obtain ⟨t', hwrite, hview⟩ := h.writeTexts_of_fits (event.fragments format) t hfits
  refine ⟨t', ?_, hview⟩
  simp only [report, write_of_ne_finish format hevent, hwrite]

/-- An event that the limit does not allow is written as far as it does, and refused. -/
lemma accept_report_of_exceeds {n : ℕ} (h : w.Keeps view (some n) flushed) {event : Event}
    (t : ω) (hheld : (view t).bytes.length ≤ n)
    (hover : n < (view t).bytes.length + (event.bytes format).length) :
    ∃ cause t', (report format w).accept event t = (.error (.output cause), t') ∧
      view t' = (view t).add ((event.bytes format).take (n - (view t).bytes.length)) := by
  have hevent : event ≠ .finish := by
    rintro rfl
    rw [Event.bytes_finish, List.length_nil] at hover
    omega
  obtain ⟨cause, t', hwrite, hview⟩ :=
    h.writeTexts_of_exceeds (event.fragments format) t hheld hover
  refine ⟨cause, t', ?_, hview⟩
  simp only [report, write_of_ne_finish format hevent, hwrite]

/-- The end of a report is a flush. -/
lemma accept_report_finish (h : w.Keeps view limit flushed) (t : ω) :
    ∃ t', (report format w).accept .finish t = ((flushed (view t)).mapError .output, t') ∧
      view t' = { view t with flushes := (view t).flushes + 1 } := by
  obtain ⟨t', hflush, hview⟩ := h.flush t
  refine ⟨t', ?_, hview⟩
  have hwrite : write format w .finish t = (flushed (view t), t') := hflush
  simp only [report, hwrite]
  rcases flushed (view t) with cause | ⟨⟩ <;> rfl

/-- An event that was accepted has been written. -/
lemma accept_report_of_ok {held : ω → List UInt8} (h : w.Holds held) {event : Event} {t t' : ω}
    (hok : (report format w).accept event t = (.ok (), t')) :
    held t' = held t ++ event.bytes format := by
  have hwrite : write format w event t = (.ok (), t') := by
    simp only [report] at hok
    rcases hw : write format w event t with ⟨_ | ⟨⟩, t₁⟩ <;> simp only [hw] at hok
    · cases congrArg Prod.fst hok
    · obtain ⟨-, rfl⟩ := Prod.mk.inj hok
      rfl
  by_cases hevent : event = .finish
  · subst hevent
    rw [Event.bytes_finish, List.append_nil]
    exact h.flush hwrite
  · rw [write_of_ne_finish format hevent] at hwrite
    exact h.writeTexts_of_ok hwrite

/-- Without a limit every event is written, and all but the end of the report are accepted. -/
lemma accept_report_of_unlimited (h : w.Keeps view none flushed) (event : Event) (t : ω) :
    (event ≠ .finish → ((report format w).accept event t).1 = .ok ()) ∧
      (view ((report format w).accept event t).2).bytes = (view t).bytes ++ event.bytes format ∧
      (event ≠ .finish →
        (view ((report format w).accept event t).2).flushes = (view t).flushes) := by
  by_cases hevent : event = .finish
  · subst hevent
    obtain ⟨t', haccept, hview⟩ := accept_report_finish format h t
    rw [haccept]
    simp [hview]
  · obtain ⟨t', haccept, hview⟩ := accept_report_of_fits format h hevent t (fits_none _)
    rw [haccept]
    simp [hview]

end Sink

end Conformance
