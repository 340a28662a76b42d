import FragmentSink.Engine.State

/-
  One step of the ingestion engine: a poll, and a tick for
  every worker.

  A batch is acknowledged only once it is durable.  A batch
  that failed sends its partition back to the first offset of
  the batch, and the engine waits before it goes on; too many
  failures of one partition in a row stop the engine.

  Key definitions include:
    * `Engine.handleCommitted`
    * `Engine.handleFailed`
    * `Engine.ingest`
    * `Engine.releaseRevoked`
    * `Engine.updateGauges`
    * `Engine.step`
-/

namespace FragmentSink

namespace Engine

open Activity

variable {σ : Type}

------------------------------------------------------------
-- Outcomes of Flushes
------------------------------------------------------------

/- The engine after a batch was stored and acknowledged. -/
def acknowledged (e : Engine) (b : CommittedBatch) : Engine :=
  { e with
    offsets := e.offsets.markCommitted b.last
    metrics :=
      e.metrics.recordFlush b.reason b.fragments b.bytes b.duration }

/- The engine after a partition stopped failing; without failing ones it is healthy. -/
def recovered (e : Engine) (p : PartitionKey) : Engine :=
  let e := { e with failures := e.failures.erase p }
  if e.failures.isEmpty then
    (e.mark .storage .healthy).mark .buffer .healthy
  else
    e

/- The status of a stream whose offset commit failed. -/
def commitTrouble (e : Error) : ComponentStatus :=
  .unhealthy ("Offset commit failed: " ++ e.message)

/- Acknowledge a stored batch. -/
def handleCommitted
    (world : World σ)
    (p : PartitionKey)
    (b : CommittedBatch) : Activity σ Unit := do
  match ← await (world.commitThrough b.last) with
  | .error cause =>
      update fun e =>
        (e.count (·.recordError .kafka)).mark .kafka
          (commitTrouble cause)
      throw (.failed cause)
  | .ok () =>
      update fun e => (e.acknowledged b).recovered p

/- The failure budget of a partition. -/
def budgetOf (e : Engine) (p : PartitionKey) : FailureBudget :=
  (e.failures.get? p).getD (.fresh e.policy)

/- The engine after one more failed commit of a partition. -/
def noteFailure
    (e : Engine)
    (p : PartitionKey)
    (elapsed : Span) : Engine :=
  { e with
    metrics := e.metrics.recordCommitFailure elapsed
    failures := e.failures.insert p (e.budgetOf p).countFailure }

/- The status of a storage that failed too often. -/
def exhausted (n : UInt32) : ComponentStatus :=
  .unhealthy
    (toString n.toNat ++ " consecutive buffer commits failed")

/- The engine while a failed batch is awaited again. -/
def awaitingRedelivery (e : Engine) : Engine :=
  (e.mark .storage
      (.degraded "Buffer commit failed, retrying")).mark .buffer
    (.degraded "Awaiting redelivery of failed batch")

/- The offset a partition has to be consumed from again. -/
def redeliveryOf (e : Engine) (p : PartitionKey) : Option Int64 :=
  (e.workers.get? p).bind (·.redelivery)

/- Send the stream of a partition back to an offset. -/
def sendBack
    (world : World σ)
    (p : PartitionKey)
    (offset : Int64) : Activity σ Unit := do
  orFail (← call (world.rewind p offset))
  let e ← engine
  let offsets ← orFault (e.offsets.rewind p offset)
  update fun e =>
    { e with
      offsets := offsets
      metrics := e.metrics.recordRedelivery }

/- Count a failed commit, and send the partition back or stop. -/
def handleFailed
    (world : World σ)
    (p : PartitionKey)
    (elapsed : Span) : Activity σ Unit := do
  update fun e => e.noteFailure p elapsed
  let noise ← call world.noise
  match ((← engine).budgetOf p).action noise with
  | .halt n =>
      update fun e => e.mark .storage (exhausted n)
      throw (.failed .bufferCommitFailed)
  | .retry backoff =>
      update awaitingRedelivery
      match (← engine).redeliveryOf p with
      | none => pure ()
      | some offset => sendBack world p offset
      await (world.sleep (.ofMillis backoff.toNat))

/- Act on how the flush of a partition ended. -/
def handleOutcome
    (world : World σ)
    (p : PartitionKey)
    (elapsed : Span) : FlushEnd → Activity σ Unit
| .nothing => pure ()
| .committed b => handleCommitted world p b
| .failed => handleFailed world p elapsed
| .dropped => throw .dropped

------------------------------------------------------------
-- Fragments and Ticks
------------------------------------------------------------

/-
  Run a worker in the world, and keep the worker it becomes
  also where the run is dropped.
-/
def runWorker
    (p : PartitionKey)
    (w : Worker)
    (f : Worker → σ → Except Fault (FlushEnd × Worker × σ)) :
    Activity σ FlushEnd := do
  let s ← get
  let (answer, w, world) ← orFault (f w s.world)
  set (Session.mk (s.engine.putWorker p w) world)
  if answer = .dropped then throw .dropped else return answer

/- Run a worker in the world, and act on how it ends. -/
def work
    (world : World σ)
    (p : PartitionKey)
    (w : Worker)
    (f : Worker → σ → Except Fault (FlushEnd × Worker × σ)) :
    Activity σ Unit := do
  let start ← call world.ticks
  let answer ← runWorker p w f
  let stop ← call world.ticks
  handleOutcome world p (.between start stop) answer

/- The worker of a partition, opened now if there is none. -/
def workerOf
    (world : World σ)
    (p : PartitionKey) : Activity σ Worker := do
  let e ← engine
  match e.workers.get? p with
  | some w => return w
  | none =>
      let now ← call world.now
      let w :=
        Worker.openAt p e.thresholds
          e.settings.buffer.commitTimeout? now
      update fun e => e.putWorker p w
      return w

/- Take in a fragment. -/
def ingest
    (world : World σ)
    (f : Fragment) : Activity σ Unit := do
  update fun e =>
    { e with
      metrics := e.metrics.recordFragment f.size
      offsets := e.offsets.updateCurrent f.token }
  let p := f.partitionKey
  let w ← workerOf world p
  work world p w (Worker.submit world.toSurroundings f)

/- Give the worker of a partition a tick, if it still has one. -/
def tickOne
    (world : World σ)
    (p : PartitionKey) : Activity σ Unit := do
  match (← engine).workers.get? p with
  | none => pure ()
  | some w =>
      work world p w fun w s => .ok (w.tick world.toSurroundings s)

/- Give the workers of the listed partitions a tick each. -/
def tickEach
    (world : World σ) : List PartitionKey → Activity σ Unit
| [] => pure ()
| p :: ps => do
    tickOne world p
    tickEach world ps

/- The partitions with a worker, in the order they are visited in. -/
def visited (world : World σ) : Activity σ (List PartitionKey) := do
  let e ← engine
  let order ← call (world.visitOrder e.workers.keys)
  return order.1

/- Give every worker a tick. -/
def tickAll (world : World σ) : Activity σ Unit := do
  tickEach world (← visited world)

------------------------------------------------------------
-- Assignments and Gauges
------------------------------------------------------------

/- The engine without what it kept for partitions outside a list. -/
def keepOnly (e : Engine) (assigned : List PartitionKey) : Engine :=
  let owned (p : PartitionKey) : Bool := assigned.contains p
  let lost := e.workers.keys.filter fun p => !owned p
  { e with
    workers := e.workers.filterKeys owned
    failures := e.failures.filterKeys owned
    offsets := lost.foldl OffsetTracker.remove e.offsets }

/- Forget the partitions that are no longer assigned, if the assignment can be read. -/
def releaseRevoked (world : World σ) : Activity σ Unit := do
  match ← call world.assigned with
  | .error _ => pure ()
  | .ok assigned => update fun e => e.keepOnly assigned

/- The fragments and bytes that workers have counted, added up. -/
def sumBuffered :
    UInt64 → UInt64 → List Worker → Except Fault (UInt64 × UInt64)
| fragments, bytes, [] => .ok (fragments, bytes)
| fragments, bytes, w :: ws =>
    match Word.addNat fragments w.state.count,
        Word.addNat bytes w.state.bytes with
    | .ok fragments, .ok bytes => sumBuffered fragments bytes ws
    | .error e, _ => .error e
    | _, .error e => .error e

/- Set the gauges to what the workers and the tracker hold. -/
def updateGauges : Activity σ Unit := do
  let e ← engine
  let (fragments, bytes) ← orFault (sumBuffered 0 0 e.workers.values)
  update fun e =>
    e.count fun m =>
      (m.setBuffered fragments bytes).setActivePartitions
        (UInt64.ofNat e.workers.size)
  let lag ← orFault e.offsets.totalLag
  update fun e =>
    e.count (·.setConsumerLag (UInt64.ofNat lag.toInt.toNat))

------------------------------------------------------------
-- Steps
------------------------------------------------------------

/- The reason a component carries after a failed poll. -/
def pollTrouble (e : Error) : String :=
  "Poll failed: " ++ e.message

/- Act on what a poll brought. -/
def handlePoll
    (world : World σ) : Poll → Activity σ Unit
| .fragment f => do
    update fun e => e.mark .kafka .healthy
    ingest world f
| .quiet => pure ()
| .failed cause backoff goOn => do
    update fun e => e.count (·.recordError .kafka)
    if goOn then
      update fun e => e.mark .kafka (.degraded (pollTrouble cause))
      await (world.sleep backoff)
    else
      update fun e => e.mark .kafka (.unhealthy (pollTrouble cause))
      throw (.failed cause)

/- One poll, and a tick for every worker. -/
def step (world : World σ) : Activity σ Unit := do
  handlePoll world (← await world.poll)
  releaseRevoked world
  tickAll world
  updateGauges

end Engine

end FragmentSink
