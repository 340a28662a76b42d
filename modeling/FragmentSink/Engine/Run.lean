import FragmentSink.Engine.Step

/-
  A run of the ingestion engine, from its start to the flush
  of everything at its end.

  The engine makes steps until one stops early: with an error,
  with a fault, or because a shutdown drops it.  An error and
  a shutdown are followed by one flush of every buffer, which
  has limited time.

  Key definitions include:
    * `Engine.flushAll`
    * `Engine.finish`
    * `Engine.run`
-/

namespace FragmentSink

namespace Engine

open Activity

variable {σ : Type}

------------------------------------------------------------
-- The Final Flush
------------------------------------------------------------

/- How long the flush of all buffers may take. -/
def shutdownLimit : Span :=
  .ofSeconds 30

/- Flush one buffer for good, and acknowledge it where that succeeds. -/
def flushOne
    (world : World σ)
    (p : PartitionKey) : Activity σ Unit := do
  match (← engine).workers.get? p with
  | none => pure ()
  | some w =>
      let answer ←
        runWorker p w fun w s =>
          .ok (w.flush world.toSurroundings .shutdown s)
      match answer with
      | .nothing => pure ()
      | .failed => pure ()
      | .dropped => throw .dropped
      | .committed b =>
          match ← await (world.commitThrough b.last) with
          | .error _ => pure ()
          | .ok () => update fun e => e.acknowledged b

/- Flush the buffers of the listed partitions for good. -/
def flushEach
    (world : World σ) : List PartitionKey → Activity σ Unit
| [] => pure ()
| p :: ps => do
    flushOne world p
    flushEach world ps

/- Flush all buffers for good. -/
def flushAll (world : World σ) : Activity σ Unit := do
  flushEach world (← visited world)

/- Flush all buffers within the limit, and set the gauges. -/
def shutDown (world : World σ) : Activity σ Unit := do
  modify fun s =>
    { s with world := world.limitShutdown shutdownLimit s.world }
  try
    flushAll world
  catch
    | .dropped => pure ()
    | stop => throw stop
  updateGauges

/- Shut down and note that the consumer has stopped. -/
def finish (world : World σ) : Activity σ Unit := do
  shutDown world
  update fun e => { e with health := e.health.consumerStopped }

------------------------------------------------------------
-- Runs
------------------------------------------------------------

/- How a run ends; one that has no steps left is unfinished. -/
inductive RunEnd where
| stopped
| failed (e : Error)
| fault (f : Fault)
| unfinished
deriving DecidableEq, Repr

/- A run: its states at each poll, how it ended, and its last state. -/
structure Run (σ : Type) where
  atPolls : List (Session σ)
  ending : RunEnd
  last : Session σ

/- The end of a run that shuts down. -/
def closing
    (world : World σ)
    (ending : RunEnd)
    (s : Session σ) : Run σ :=
  match (finish world).run.run s with
  | (.error (.fault f), s) => ⟨[], .fault f, s⟩
  | (_, s) => ⟨[], ending, s⟩

/- Make steps until one stops early, but no more than a number of them. -/
def loop
    (world : World σ) :
    Nat → Session σ → Run σ
| 0, s => ⟨[], .unfinished, s⟩
| steps + 1, s =>
    let rest :=
      match (step world).run.run s with
      | (.ok (), s) => loop world steps s
      | (.error .dropped, s) => closing world .stopped s
      | (.error (.failed e), s) => closing world (.failed e) s
      | (.error (.fault f), s) => ⟨[], .fault f, s⟩
    { rest with atPolls := s :: rest.atPolls }

/- Note that the consumer runs. -/
def started (e : Engine) : Engine :=
  { e with health := e.health.consumerStarted }

/- Run an engine for at most a number of steps. -/
def run
    (world : World σ)
    (steps : Nat)
    (e : Engine)
    (s : σ) : Run σ :=
  loop world steps ⟨e.started, s⟩

end Engine

end FragmentSink
