import FragmentSink.Number.Word

/-
  Instants of the calendar and spans between readings.

  An instant counts nanoseconds from the start of 1970 and
  stays between the first and the last instant the calendar
  can express.

  Main statements:
    * `Timestamp.shift?_eq_some_iff`
    * `Timestamp.InRange.shift?`
-/

namespace FragmentSink

------------------------------------------------------------
-- Instants
------------------------------------------------------------

/- An instant, in nanoseconds from the start of 1970. -/
structure Timestamp where
  nanos : Int
deriving DecidableEq, Repr

namespace Timestamp

/- The first instant of the calendar. -/
def earliest : Timestamp :=
  ⟨-8334601228800 * 1000000000⟩

/- The last instant of the calendar. -/
def latest : Timestamp :=
  ⟨8210266876800 * 1000000000 - 1⟩

instance : LE Timestamp :=
  ⟨fun s t => s.nanos ≤ t.nanos⟩

instance (s t : Timestamp) : Decidable (s ≤ t) :=
  inferInstanceAs (Decidable (s.nanos ≤ t.nanos))

theorem le_def {s t : Timestamp} :
    s ≤ t ↔ s.nanos ≤ t.nanos :=
  Iff.rfl

/- An instant the calendar can express. -/
def InRange (t : Timestamp) : Prop :=
  earliest ≤ t ∧ t ≤ latest

instance (t : Timestamp) : Decidable t.InRange := by
  unfold InRange
  infer_instance

/- The instant a number of microseconds after the start of 1970. -/
def ofMicros (n : Int) : Timestamp :=
  ⟨n * 1000⟩

/- Whole microseconds from the start of 1970, rounded down. -/
def micros (t : Timestamp) : Int :=
  t.nanos.fdiv 1000

/- The instant a number of nanoseconds later, if the calendar has it. -/
def shift? (t : Timestamp) (nanos : Int) : Option Timestamp :=
  let moved : Timestamp := ⟨t.nanos + nanos⟩
  if moved.InRange then some moved else none

/- A shift succeeds exactly where the exact sum is in range. -/
theorem shift?_eq_some_iff
    {s t : Timestamp} {n : Int} :
    s.shift? n = some t ↔
      t.nanos = s.nanos + n ∧ t.InRange := by
  simp only [shift?]
  split
  case isTrue h =>
    constructor
    · intro hEq
      cases hEq
      exact ⟨rfl, h⟩
    · rintro ⟨hEq, -⟩
      cases t
      simp_all
  case isFalse h =>
    constructor
    · intro hEq
      cases hEq
    · rintro ⟨hEq, hRange⟩
      cases t
      simp_all

/- A shift never leaves the calendar. -/
theorem InRange.shift?
    {s t : Timestamp} {n : Int}
    (h : s.shift? n = some t) :
    t.InRange :=
  (shift?_eq_some_iff.mp h).2

end Timestamp

------------------------------------------------------------
-- Clocks Set by Hand
------------------------------------------------------------

/- A clock that shows the instant it was last set to. -/
structure ManualClock where
  shown : Timestamp
deriving DecidableEq, Repr

namespace ManualClock

/- Move the hands; leaving the calendar faults. -/
def advance
    (c : ManualClock)
    (nanos : Int) : Except Fault ManualClock :=
  match c.shown.shift? nanos with
  | some t => .ok ⟨t⟩
  | none => .error .instant

end ManualClock

------------------------------------------------------------
-- Spans
------------------------------------------------------------

/- A length of time, in nanoseconds. -/
structure Span where
  nanos : Nat
deriving DecidableEq, Repr

namespace Span

/- A span of whole milliseconds. -/
def ofMillis (n : Nat) : Span :=
  ⟨n * 1000000⟩

/- A span of whole seconds. -/
def ofSeconds (n : Nat) : Span :=
  ⟨n * 1000000000⟩

/- The whole milliseconds of a span, as a word. -/
def millis (s : Span) : UInt64 :=
  UInt64.ofNat (s.nanos / 1000000)

/- The span from one reading of a running counter to a later one. -/
def between (start stop : Nat) : Span :=
  ⟨stop - start⟩

end Span

end FragmentSink
