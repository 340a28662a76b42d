import FragmentSink.Time
import FragmentSink.Buffer.Reason

/-
  The counters of one buffer and the instant it is due.

  A buffer is opened at an instant, counts what is appended
  to it, and is ready once its count, its size or the clock
  reaches a bound.

  Main statements:
    * `BufferState.toNat_count_append`
    * `BufferState.toNat_bytes_append`
    * `BufferState.renewAt_append`
-/

namespace FragmentSink

------------------------------------------------------------
-- Thresholds
------------------------------------------------------------

/- The bounds of a buffer: fragments, bytes and seconds. -/
structure Thresholds where
  count : UInt64
  bytes : UInt64
  seconds : UInt64
deriving DecidableEq, Repr

namespace Thresholds

/-
  The longest window that can be laid on the calendar, in
  seconds: its milliseconds fill a signed word.
-/
def longestWindow : Nat :=
  9223372036854775807 / 1000

/- The window of a buffer in nanoseconds, unless it is too long to measure. -/
def window? (t : Thresholds) : Option Int :=
  if t.seconds.toNat ≤ longestWindow then
    some (t.seconds.toNat * 1000000000)
  else
    none

end Thresholds

------------------------------------------------------------
-- Buffer Counters
------------------------------------------------------------

/- The counters of a buffer, the instant it was opened and the instant it is due. -/
structure BufferState where
  thresholds : Thresholds
  count : UInt64
  bytes : UInt64
  openedAt : Timestamp
  deadline : Timestamp
deriving DecidableEq, Repr

namespace BufferState

/-
  The instant a buffer opened now is due: one window later,
  or the last instant of the calendar where that does not exist.
-/
def deadlineFrom (t : Thresholds) (now : Timestamp) : Timestamp :=
  (t.window?.bind now.shift?).getD Timestamp.latest

/- An empty buffer, opened at an instant. -/
def openAt (t : Thresholds) (now : Timestamp) : BufferState where
  thresholds := t
  count := 0
  bytes := 0
  openedAt := now
  deadline := deadlineFrom t now

/- Count one more fragment of the given size. -/
def append (s : BufferState) (size : UInt64) : BufferState :=
  { s with
    count := Word.saturatingAdd s.count 1
    bytes := Word.saturatingAdd s.bytes size }

/- An empty buffer with the same bounds, opened at an instant. -/
def renewAt (s : BufferState) (now : Timestamp) : BufferState :=
  openAt s.thresholds now

/- Whether nothing was appended. -/
def isEmpty (s : BufferState) : Bool :=
  s.count == 0

/- Whether the count has reached its bound. -/
def countReached (s : BufferState) : Bool :=
  s.thresholds.count ≤ s.count

/- Whether the size has reached its bound. -/
def sizeReached (s : BufferState) : Bool :=
  s.thresholds.bytes ≤ s.bytes

/- Whether the buffer is due at an instant. -/
def dueAt (s : BufferState) (now : Timestamp) : Bool :=
  s.deadline ≤ now

/- The bounds reached at an instant. -/
def readinessAt (s : BufferState) (now : Timestamp) : Readiness where
  count := s.countReached
  size := s.sizeReached
  time := s.dueAt now

/- The buffer after fragments of the given sizes, in order. -/
def appendAll (s : BufferState) (sizes : List UInt64) : BufferState :=
  sizes.foldl append s

/- Appending adds one to the count, up to the largest word. -/
theorem toNat_count_append (s : BufferState) (size : UInt64) :
    (s.append size).count.toNat =
      min (s.count.toNat + 1) Word.top :=
  Word.toNat_saturatingAdd s.count 1

/- Appending adds the size to the bytes, up to the largest word. -/
theorem toNat_bytes_append (s : BufferState) (size : UInt64) :
    (s.append size).bytes.toNat =
      min (s.bytes.toNat + size.toNat) Word.top :=
  Word.toNat_saturatingAdd s.bytes size

/- A renewed buffer does not remember what was appended. -/
theorem renewAt_append
    (s : BufferState) (size : UInt64) (now : Timestamp) :
    (s.append size).renewAt now = s.renewAt now :=
  rfl

end BufferState

end FragmentSink
