import FragmentSink.Buffer.State
import FragmentSink.Commit

/-
  The worker of one partition: its buffer, and the fragments
  counted in it.

  A submitted fragment is appended; when the buffer is ready
  the pending fragments are taken and committed as one batch.
  Whatever a commit that runs to its end answers, the buffer
  starts anew.  A failed batch leaves behind the offset from
  which it has to be consumed again.

  Key definitions include:
    * `Worker`
    * `Worker.flushBy`
    * `Worker.tickBy`
    * `Worker.submitBy`
    * `Worker.flush`
-/

namespace FragmentSink

------------------------------------------------------------
-- Workers
------------------------------------------------------------

/- The buffer of one partition, and what is pending in it. -/
structure Worker where
  partition : PartitionKey
  state : BufferState
  pending : List Fragment
  commitLimit : Option Span
  redelivery : Option Int64
deriving DecidableEq

/- A batch that was committed. -/
structure CommittedBatch where
  partition : PartitionKey
  first : Int64
  last : OffsetToken
  fragments : UInt64
  bytes : UInt64
  reason : FlushReason
  duration : Span
deriving DecidableEq, Repr

/- How a flush ends. -/
inductive FlushEnd where
| nothing
| committed (batch : CommittedBatch)
| failed
| dropped
deriving DecidableEq, Repr

namespace Worker

variable {σ : Type}

/- A worker with an empty buffer, opened at an instant. -/
def openAt
    (partition : PartitionKey)
    (thresholds : Thresholds)
    (commitLimit : Option Span)
    (now : Timestamp) : Worker where
  partition := partition
  state := .openAt thresholds now
  pending := []
  commitLimit := commitLimit
  redelivery := none

/- The worker with an empty buffer in place of the one it had. -/
def renewAt (w : Worker) (now : Timestamp) : Worker :=
  { w with state := w.state.renewAt now }

/- The worker with one more fragment, counted and pending. -/
def append (w : Worker) (f : Fragment) : Worker :=
  { w with
    state := w.state.append f.size
    pending := w.pending ++ [f] }

/- The worker whose pending fragments were taken; their count is not. -/
def taken (w : Worker) : Worker :=
  { w with pending := [] }

/- The description of a nonempty batch. -/
def describe
    (w : Worker)
    (first : Fragment)
    (rest : List Fragment)
    (reason : FlushReason)
    (duration : Span) : CommittedBatch where
  partition := w.partition
  first := first.offset
  last := ((first :: rest).getLast (List.cons_ne_nil _ _)).token
  fragments := UInt64.ofNat (rest.length + 1)
  bytes := w.state.bytes
  reason := reason
  duration := duration

------------------------------------------------------------
-- Flushing
------------------------------------------------------------

/-
  Hand what is pending to an executor as one batch.  An empty
  buffer only starts anew.  A flush that is dropped has taken
  the pending fragments but has not started the buffer anew.
-/
def flushBy
    (commit : Executor σ)
    (env : Surroundings σ)
    (reason : FlushReason)
    (w : Worker)
    (s : σ) : FlushEnd × Worker × σ :=
  match w.pending with
  | [] =>
      let (now, s) := env.now s
      (.nothing, w.renewAt now, s)
  | first :: rest =>
      let (start, s) := env.ticks s
      match commit.within env w.commitLimit (first :: rest) s with
      | (.dropped, s) => (.dropped, w.taken, s)
      | (.durable, s) =>
          let (stop, s) := env.ticks s
          let (now, s) := env.now s
          (.committed
              (w.describe first rest reason (.between start stop)),
            { w.taken.renewAt now with redelivery := none }, s)
      | (.failed, s) =>
          let (_, s) := env.ticks s
          let (now, s) := env.now s
          (.failed,
            { w.taken.renewAt now with
              redelivery := some first.offset }, s)

/- Flush the buffer if it is ready now. -/
def tickBy
    (commit : Executor σ)
    (env : Surroundings σ)
    (w : Worker)
    (s : σ) : FlushEnd × Worker × σ :=
  let (now, s) := env.now s
  match (w.state.readinessAt now).reason with
  | some reason => w.flushBy commit env reason s
  | none => (.nothing, w, s)

/- Take in a fragment of the worker's partition, and flush if that makes it ready. -/
def submitBy
    (commit : Executor σ)
    (env : Surroundings σ)
    (f : Fragment)
    (w : Worker)
    (s : σ) : Except Fault (FlushEnd × Worker × σ) :=
  if f.partitionKey = w.partition then
    .ok ((w.append f).tickBy commit env s)
  else
    .error .misrouted

------------------------------------------------------------
-- Flushing to a Storage
------------------------------------------------------------

/- A flush whose batch is uploaded fragment by fragment. -/
def flush
    (env : Surroundings σ)
    (reason : FlushReason)
    (w : Worker)
    (s : σ) : FlushEnd × Worker × σ :=
  w.flushBy (commitAll env) env reason s

/- A tick that flushes so. -/
def tick
    (env : Surroundings σ)
    (w : Worker)
    (s : σ) : FlushEnd × Worker × σ :=
  w.tickBy (commitAll env) env s

/- The submission of a fragment that flushes so. -/
def submit
    (env : Surroundings σ)
    (f : Fragment)
    (w : Worker)
    (s : σ) : Except Fault (FlushEnd × Worker × σ) :=
  w.submitBy (commitAll env) env f s

end Worker

end FragmentSink
