import FragmentSink.Time
import FragmentSink.Buffer.Reason

/-
  The counters and gauges of an ingestion, and the histogram
  of its commit durations.

  Counters are words that wrap around.  A duration is counted
  in every bucket whose bound it does not pass.

  Key definitions include:
    * `Metrics`
    * `Metrics.recordFlush`
    * `Metrics.recordCommitFailure`
    * `Metrics.errorsTotal`
-/

namespace FragmentSink

------------------------------------------------------------
-- Kinds of Errors
------------------------------------------------------------

/- The kinds of errors that are counted apart. -/
inductive ErrorType where
| kafka
| buffer
deriving DecidableEq, Repr

namespace ErrorType

/- Every kind, in the order they are listed in. -/
def all : List ErrorType :=
  [.kafka, .buffer]

/- The written name of a kind. -/
def label : ErrorType → String
| .kafka => "kafka"
| .buffer => "buffer"

end ErrorType

------------------------------------------------------------
-- Counts by Label
------------------------------------------------------------

/- Add one to the count of a label. -/
def bump
    {κ : Type} [DecidableEq κ]
    (counts : κ → UInt64)
    (k : κ) : κ → UInt64 :=
  fun x => if x = k then counts x + 1 else counts x

------------------------------------------------------------
-- Commit Durations
------------------------------------------------------------

/- The bounds of the duration buckets, in milliseconds. -/
def durationBounds : List Nat :=
  [100, 250, 500, 1000, 2500, 5000, 10000]

/- How many durations were seen, their sum, and how many stayed within each bound. -/
structure DurationHistogram where
  sumMillis : UInt64
  count : UInt64
  within : List UInt64
  unbounded : UInt64
deriving DecidableEq, Repr

namespace DurationHistogram

/- The histogram that has seen nothing. -/
def empty : DurationHistogram :=
  ⟨0, 0, durationBounds.map fun _ => 0, 0⟩

/- Count one duration. -/
def observe (h : DurationHistogram) (d : Span) : DurationHistogram where
  sumMillis := h.sumMillis + d.millis
  count := h.count + 1
  within :=
    List.zipWith
      (fun bound n =>
        if d.millis.toNat ≤ bound then n + 1 else n)
      durationBounds h.within
  unbounded := h.unbounded + 1

end DurationHistogram

------------------------------------------------------------
-- Counters and Gauges
------------------------------------------------------------

/- The counters and gauges of an ingestion. -/
structure Metrics where
  fragmentsConsumed : UInt64
  bytesConsumed : UInt64
  errors : ErrorType → UInt64
  flushes : UInt64
  flushesByReason : FlushReason → UInt64
  fragmentsFlushed : UInt64
  bytesFlushed : UInt64
  commitFailures : UInt64
  redeliveries : UInt64
  bufferedFragments : UInt64
  bufferedBytes : UInt64
  activePartitions : UInt64
  consumerLag : UInt64
  durations : DurationHistogram

namespace Metrics

/- All counters and gauges at zero. -/
def zero : Metrics where
  fragmentsConsumed := 0
  bytesConsumed := 0
  errors := fun _ => 0
  flushes := 0
  flushesByReason := fun _ => 0
  fragmentsFlushed := 0
  bytesFlushed := 0
  commitFailures := 0
  redeliveries := 0
  bufferedFragments := 0
  bufferedBytes := 0
  activePartitions := 0
  consumerLag := 0
  durations := .empty

/- Count a consumed fragment. -/
def recordFragment (m : Metrics) (size : UInt64) : Metrics :=
  { m with
    fragmentsConsumed := m.fragmentsConsumed + 1
    bytesConsumed := m.bytesConsumed + size }

/- Count an error. -/
def recordError (m : Metrics) (kind : ErrorType) : Metrics :=
  { m with errors := bump m.errors kind }

/- Count a flush that was committed. -/
def recordFlush
    (m : Metrics)
    (reason : FlushReason)
    (fragments : UInt64)
    (bytes : UInt64)
    (duration : Span) : Metrics :=
  { m with
    flushes := m.flushes + 1
    flushesByReason := bump m.flushesByReason reason
    fragmentsFlushed := m.fragmentsFlushed + fragments
    bytesFlushed := m.bytesFlushed + bytes
    durations := m.durations.observe duration }

/- Count a commit that failed. -/
def recordCommitFailure (m : Metrics) (duration : Span) : Metrics :=
  { m.recordError .buffer with
    commitFailures := m.commitFailures + 1
    durations := m.durations.observe duration }

/- Count a partition that was sent back for redelivery. -/
def recordRedelivery (m : Metrics) : Metrics :=
  { m with redeliveries := m.redeliveries + 1 }

/- Set the gauges of what is buffered. -/
def setBuffered (m : Metrics) (fragments bytes : UInt64) : Metrics :=
  { m with
    bufferedFragments := fragments
    bufferedBytes := bytes }

/- Set the gauge of partitions with a buffer. -/
def setActivePartitions (m : Metrics) (n : UInt64) : Metrics :=
  { m with activePartitions := n }

/- Set the gauge of the lag. -/
def setConsumerLag (m : Metrics) (n : UInt64) : Metrics :=
  { m with consumerLag := n }

/- The errors of all kinds together; a total that does not fit faults. -/
def errorsTotal (m : Metrics) : Except Fault UInt64 :=
  Word.addNat (m.errors .kafka) (m.errors .buffer)

end Metrics

end FragmentSink
