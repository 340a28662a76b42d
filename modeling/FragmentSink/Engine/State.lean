import FragmentSink.Config.Settings
import FragmentSink.Engine.World
import FragmentSink.Health
import FragmentSink.Metrics.Counters
import FragmentSink.Offsets
import FragmentSink.Retry
import FragmentSink.Worker

/-
  The state of the ingestion engine, and the activities that
  change it together with the world.

  An activity that stops early keeps what it changed before.

  Key definitions include:
    * `Engine`
    * `Engine.ofSettings`
    * `Session`
    * `Stop`
    * `Activity`
-/

namespace FragmentSink

------------------------------------------------------------
-- Engines
------------------------------------------------------------

/-
  The state of an engine: a worker for each partition that
  brought fragments, a budget for each partition whose commits
  fail, and what is reported.
-/
structure Engine where
  settings : Settings
  thresholds : Thresholds
  policy : RetryPolicy
  workers : Table PartitionKey Worker
  failures : Table PartitionKey FailureBudget
  offsets : OffsetTracker
  metrics : Metrics
  health : Health

namespace Engine

/- The engine of a usable configuration, before it runs. -/
def fresh (s : Settings) : Engine where
  settings := s
  thresholds := s.buffer.thresholds
  policy := .forBufferCommit s.buffer.maxConsecutiveFailures
  workers := .empty
  failures := .empty
  offsets := .empty
  metrics := .zero
  health := Health.forIngestion.mark .storage .healthy

/- The engine of a configuration; one that breaks a rule is refused. -/
def ofSettings (s : Settings) : Except Error Engine :=
  s.validate.map fun _ => fresh s

/- The engine with a status for one of its components. -/
def mark
    (e : Engine)
    (c : Component)
    (s : ComponentStatus) : Engine :=
  { e with health := e.health.mark c s }

/- The engine with its metrics changed. -/
def count (e : Engine) (f : Metrics → Metrics) : Engine :=
  { e with metrics := f e.metrics }

/- The engine with a worker in place of the one of its partition. -/
def putWorker
    (e : Engine)
    (p : PartitionKey)
    (w : Worker) : Engine :=
  { e with workers := e.workers.insert p w }

end Engine

------------------------------------------------------------
-- Activities
------------------------------------------------------------

/- An engine and the world around it. -/
structure Session (σ : Type) where
  engine : Engine
  world : σ

/- Why an activity stops early. -/
inductive Stop where
| failed (e : Error)
| fault (f : Fault)
| dropped
deriving DecidableEq, Repr

/- A change of an engine and its world that may stop early, keeping what it changed. -/
abbrev Activity (σ α : Type) :=
  ExceptT Stop (StateM (Session σ)) α

namespace Activity

variable {σ α : Type}

/- The engine as it is. -/
def engine : Activity σ Engine := do
  return (← get).engine

/- Change the engine. -/
def update (f : Engine → Engine) : Activity σ Unit :=
  modify fun s => { s with engine := f s.engine }

/- Call the world. -/
def call (f : σ → α × σ) : Activity σ α :=
  modifyGet fun s =>
    let (answer, world) := f s.world
    (answer, { s with world := world })

/- Call the world and wait for its answer. -/
def await (f : σ → Awaited α × σ) : Activity σ α := do
  match ← call f with
  | .done answer => return answer
  | .dropped => throw .dropped

/- Stop with a fault where there is one. -/
def orFault (x : Except Fault α) : Activity σ α :=
  match x with
  | .ok a => return a
  | .error f => throw (.fault f)

/- Stop with an error where there is one. -/
def orFail (x : Except Error α) : Activity σ α :=
  match x with
  | .ok a => return a
  | .error e => throw (.failed e)

end Activity

end FragmentSink
