import FragmentSink.Engine.Step
import FragmentSink.Proofs.Activity
import FragmentSink.Proofs.Worker.Flush

/-
  The moves of an engine over a recorded world.

  A moment is an engine with what has happened to it.  Every
  activity of a step makes moves from one moment to the next,
  and the moves listed here are all there are.

  Main declarations:
    * `Settled`
    * `Worked`
    * `Move`
    * `Chain`
    * `ends_step`
-/

namespace FragmentSink

variable {σ α : Type}

------------------------------------------------------------
-- Moments
------------------------------------------------------------

/- An engine and what has happened to it so far. -/
structure Moment where
  engine : Engine
  history : History

/- The moment of a session in a recorded world. -/
def Session.moment (s : Session (σ × History)) : Moment :=
  ⟨s.engine, s.world.2⟩

/- How a wait ends for the task that waits. -/
def Awaited.ending : Awaited α → Except Stop Unit
| .done _ => .ok ()
| .dropped => .error .dropped

namespace Activity

variable {s : Session (σ × History)}
variable {E : Stop → Session (σ × History) → Prop}

/- A call that is noted leaves its event behind. -/
theorem leads_noted_call
    {f : σ × History → α × (σ × History)}
    {Q : α → Session (σ × History) → Prop}
    (event : α → Event)
    (hNoted : ∀ t, (f t).2.2 = event (f t).1 :: t.2)
    (hAnswer :
      ∀ a w, Q a ⟨s.engine, w, event a :: s.world.2⟩) :
    (call f).Leads s Q E := by
  have hCall := hAnswer (f s.world).1 (f s.world).2.1
  rw [← hNoted s.world] at hCall
  exact leads_call.mpr hCall

/- So does one that is waited for, also where the wait is dropped. -/
theorem leads_noted_await
    {f : σ × History → Awaited α × (σ × History)}
    {Q : α → Session (σ × History) → Prop}
    (event : Awaited α → Event)
    (hNoted : ∀ t, (f t).2.2 = event (f t).1 :: t.2)
    (hDone :
      ∀ a w, Q a ⟨s.engine, w, event (.done a) :: s.world.2⟩)
    (hDropped :
      ∀ w, E .dropped
        ⟨s.engine, w, event .dropped :: s.world.2⟩) :
    (await f).Leads s Q E := by
  have hEvent := hNoted s.world
  rw [leads_await]
  rcases hCall : f s.world with ⟨answer, w, h⟩
  simp only [hCall] at hEvent
  subst hEvent
  cases answer with
  | done a => exact hDone a w
  | dropped => exact hDropped w

/- A call that is not noted leaves the history as it is. -/
theorem leads_quiet_call
    {f : σ × History → α × (σ × History)}
    {Q : α → Session (σ × History) → Prop}
    (hQuiet : ∀ t, (f t).2.2 = t.2)
    (hAnswer : ∀ a w, Q a ⟨s.engine, w, s.world.2⟩) :
    (call f).Leads s Q E := by
  have hCall := hAnswer (f s.world).1 (f s.world).2.1
  rw [← hQuiet s.world] at hCall
  exact leads_call.mpr hCall

/-
  From a session, an activity ends in one of the given ways,
  each with the moment it leaves behind.
-/
def Ends
    (x : Activity (σ × History) Unit)
    (s : Session (σ × History))
    (R : Except Stop Unit → Moment → Prop) : Prop :=
  x.Leads s
    (fun _ t => R (.ok ()) t.moment)
    (fun e t => R (.error e) t.moment)

/- How an activity ends is what its run shows. -/
theorem Ends.of_run
    {x : Activity (σ × History) Unit}
    {s t : Session (σ × History)}
    {r : Except Stop Unit}
    {R : Except Stop Unit → Moment → Prop}
    (hEnds : x.Ends s R)
    (hRun : x.run.run s = (r, t)) :
    R r t.moment := by
  cases r with
  | ok => exact hEnds.of_run_ok hRun
  | error e => exact hEnds.of_run_error hRun

end Activity

------------------------------------------------------------
-- Outcomes of Flushes
------------------------------------------------------------

namespace Engine

/- The engine after one more failed commit that is retried. -/
def failing
    (e : Engine)
    (p : PartitionKey)
    (elapsed : Span) : Engine :=
  (e.noteFailure p elapsed).awaitingRedelivery

/- The engine after a partition was sent back. -/
def sentBack (e : Engine) (offsets : OffsetTracker) : Engine :=
  { e with
    offsets := offsets
    metrics := e.metrics.recordRedelivery }

/- A failure that was noted is one more than there were. -/
@[simp] theorem budgetOf_noteFailure
    (e : Engine)
    (p : PartitionKey)
    (elapsed : Span) :
    (e.noteFailure p elapsed).budgetOf p =
      (e.budgetOf p).countFailure := by
  simp [budgetOf, noteFailure]

/- What a new worker was left with is what its partition is sent back to. -/
@[simp] theorem redeliveryOf_putWorker
    (e : Engine)
    (p : PartitionKey)
    (w : Worker) :
    (e.putWorker p w).redeliveryOf p = w.redelivery := by
  simp [redeliveryOf, putWorker]

end Engine

/-
  How the outcome of a flush is settled: a stored batch is
  acknowledged or not, a failed one is sent back and waited
  for, or stops the engine.
-/
inductive Settled
    (p : PartitionKey)
    (elapsed : Span)
    (m : Moment) :
    FlushEnd → Except Stop Unit → Moment → Prop
| nothing : Settled p elapsed m .nothing (.ok ()) m
| acknowledged (b : CommittedBatch) :
    Settled p elapsed m (.committed b) (.ok ())
      ⟨(m.engine.acknowledged b).recovered p,
        .commit b.last (.done (.ok ())) :: m.history⟩
| unacknowledged (b : CommittedBatch) (cause : Error) :
    Settled p elapsed m (.committed b) (.error (.failed cause))
      ⟨(m.engine.count (·.recordError .kafka)).mark .kafka
          (Engine.commitTrouble cause),
        .commit b.last (.done (.error cause)) :: m.history⟩
| lost (b : CommittedBatch) :
    Settled p elapsed m (.committed b) (.error .dropped)
      ⟨m.engine, .commit b.last .dropped :: m.history⟩
| halted
    (n : UInt64)
    (consecutive : UInt32)
    (hAction :
      (m.engine.budgetOf p).countFailure.action n =
        .halt consecutive) :
    Settled p elapsed m .failed
      (.error (.failed .bufferCommitFailed))
      ⟨(m.engine.noteFailure p elapsed).mark .storage
          (Engine.exhausted consecutive),
        .noise n :: m.history⟩
| unsent
    (n backoff : UInt64)
    (offset : Int64)
    (cause : Error)
    (hAction :
      (m.engine.budgetOf p).countFailure.action n =
        .retry backoff)
    (hOffset : m.engine.redeliveryOf p = some offset) :
    Settled p elapsed m .failed (.error (.failed cause))
      ⟨m.engine.failing p elapsed,
        .rewind p offset (.error cause) ::
          .noise n :: m.history⟩
| untracked
    (n backoff : UInt64)
    (offset : Int64)
    (fault : Fault)
    (hAction :
      (m.engine.budgetOf p).countFailure.action n =
        .retry backoff)
    (hOffset : m.engine.redeliveryOf p = some offset)
    (hFault :
      m.engine.offsets.rewind p offset = .error fault) :
    Settled p elapsed m .failed (.error (.fault fault))
      ⟨m.engine.failing p elapsed,
        .rewind p offset (.ok ()) :: .noise n :: m.history⟩
| waited
    (n backoff : UInt64)
    (offset : Int64)
    (offsets : OffsetTracker)
    (answer : Awaited Unit)
    (hAction :
      (m.engine.budgetOf p).countFailure.action n =
        .retry backoff)
    (hOffset : m.engine.redeliveryOf p = some offset)
    (hOffsets :
      m.engine.offsets.rewind p offset = .ok offsets) :
    Settled p elapsed m .failed answer.ending
      ⟨(m.engine.failing p elapsed).sentBack offsets,
        .sleep (.ofMillis backoff.toNat) answer ::
          .rewind p offset (.ok ()) ::
            .noise n :: m.history⟩

/- A stored batch is acknowledged, or stops the engine. -/
theorem ends_handleCommitted
    (world : World σ)
    (p : PartitionKey)
    (elapsed : Span)
    (b : CommittedBatch)
    (s : Session (σ × History)) :
    (Engine.handleCommitted world.recorded p b).Ends s
      (Settled p elapsed s.moment (.committed b)) := by
  unfold Engine.handleCommitted Activity.Ends
  rw [Activity.leads_bind]
  apply Activity.leads_noted_await (.commit b.last) fun _ => rfl
  · intro answer w
    cases answer with
    | ok => exact .acknowledged b
    | error cause => exact .unacknowledged b cause
  · intro w
    exact .lost b

/- A failed batch is sent back and waited for, or stops the engine. -/
theorem ends_handleFailed
    (world : World σ)
    (p : PartitionKey)
    (elapsed : Span)
    (s : Session (σ × History))
    {offset : Int64}
    (hOffset : s.engine.redeliveryOf p = some offset) :
    (Engine.handleFailed world.recorded p elapsed).Ends s
      (Settled p elapsed s.moment .failed) := by
  unfold Engine.handleFailed Activity.Ends
  rw [Activity.leads_bind, Activity.leads_update,
    Activity.leads_bind]
  apply Activity.leads_noted_call .noise fun _ => rfl
  intro n w
  rw [Activity.leads_bind, Activity.leads_engine,
    Engine.budgetOf_noteFailure]
  cases hAction :
      (s.engine.budgetOf p).countFailure.action n with
  | halt consecutive => exact .halted n consecutive hAction
  | retry backoff =>
      rw [Activity.leads_bind, Activity.leads_update,
        Activity.leads_bind, Activity.leads_engine]
      split
      case h_1 hNone => cases hOffset.symm.trans hNone
      case h_2 found hFound =>
        cases hOffset.symm.trans hFound
        unfold Engine.sendBack
        simp only [Activity.leads_bind]
        apply Activity.leads_noted_call (.rewind p offset)
          fun _ => rfl
        intro answer w
        apply Activity.leads_orFail
        · rintro ⟨⟩ rfl
          rw [Activity.leads_engine]
          apply Activity.leads_orFault
          · intro offsets hOffsets
            rw [Activity.leads_update]
            apply Activity.leads_noted_await
              (.sleep (.ofMillis backoff.toNat)) fun _ => rfl
            · intro answer w
              exact .waited n backoff offset offsets
                (.done answer) hAction hOffset hOffsets
            · intro w
              exact .waited n backoff offset offsets
                .dropped hAction hOffset hOffsets
          · intro fault hFault
            exact .untracked n backoff offset fault
              hAction hOffset hFault
        · rintro cause rfl
          exact .unsent n backoff offset cause hAction hOffset

/- A flush that was not dropped is settled in one of these ways. -/
theorem ends_handleOutcome
    (world : World σ)
    (p : PartitionKey)
    (elapsed : Span)
    (answer : FlushEnd)
    (s : Session (σ × History))
    (hAnswer : answer ≠ .dropped)
    (hOffset :
      answer = .failed →
        ∃ offset, s.engine.redeliveryOf p = some offset) :
    (Engine.handleOutcome world.recorded p elapsed answer).Ends s
      (Settled p elapsed s.moment answer) := by
  cases answer with
  | nothing => exact .nothing
  | committed b => exact ends_handleCommitted world p elapsed b s
  | failed =>
      rcases hOffset rfl with ⟨offset, hOffset⟩
      exact ends_handleFailed world p elapsed s hOffset
  | dropped => exact absurd rfl hAnswer

------------------------------------------------------------
-- Workers at Work
------------------------------------------------------------

/-
  A tick of a worker in its engine: the tick itself, and how
  its outcome is settled unless it is dropped.
-/
inductive Worked
    (p : PartitionKey)
    (w : Worker)
    (m : Moment) : Except Stop Unit → Moment → Prop
| settled
    {answer : FlushEnd}
    {w' : Worker}
    {h' : History}
    {r : Except Stop Unit}
    {m' : Moment}
    (elapsed : Span)
    (hTicked : w.Ticked m.history answer w' h')
    (hAnswer : answer ≠ .dropped)
    (hSettled :
      Settled p elapsed ⟨m.engine.putWorker p w', h'⟩
        answer r m') :
    Worked p w m r m'
| cut
    {w' : Worker}
    {h' : History}
    (hTicked : w.Ticked m.history .dropped w' h') :
    Worked p w m (.error .dropped)
      ⟨m.engine.putWorker p w', h'⟩

/- A worker that failed knows where its stream resumes. -/
theorem Worker.Ticked.redelivery_of_failed
    {w w' : Worker}
    {h h' : History}
    (hTicked : w.Ticked h .failed w' h') :
    ∃ offset, w'.redelivery = some offset := by
  cases hTicked with
  | ready now reason hReason hFlushed =>
      cases hFlushed with
      | failed first => exact ⟨first.offset, rfl⟩

/- A worker that is run is kept, also where the run is dropped. -/
theorem leads_runWorker
    {p : PartitionKey}
    {w w' : Worker}
    {f : Worker → σ → Except Fault (FlushEnd × Worker × σ)}
    {s : Session σ}
    {t : σ}
    {answer : FlushEnd}
    {Q : FlushEnd → Session σ → Prop}
    {E : Stop → Session σ → Prop}
    (hRun : f w s.world = .ok (answer, w', t))
    (hEnded :
      answer ≠ .dropped →
        Q answer ⟨s.engine.putWorker p w', t⟩)
    (hCut :
      answer = .dropped →
        E .dropped ⟨s.engine.putWorker p w', t⟩) :
    (Engine.runWorker p w f).Leads s Q E := by
  unfold Engine.runWorker
  rw [Activity.leads_bind, Activity.leads_get,
    Activity.leads_bind, hRun]
  apply Activity.leads_orFault
  · rintro a ⟨⟩
    rw [Activity.leads_bind, Activity.leads_set]
    by_cases hAnswer : answer = .dropped
    · rw [if_pos hAnswer]
      exact hCut hAnswer
    · rw [if_neg hAnswer]
      exact hEnded hAnswer
  · rintro fault ⟨⟩

/- A run that comes down to a tick is worked through as one. -/
theorem ends_work
    (world : World σ)
    (p : PartitionKey)
    (w loaded : Worker)
    (f :
      Worker → σ × History →
        Except Fault (FlushEnd × Worker × (σ × History)))
    (s : Session (σ × History))
    (hRun :
      ∀ t, f w t =
        .ok (loaded.tick world.toSurroundings.recorded t)) :
    (Engine.work world.recorded p w f).Ends s
      (Worked p loaded s.moment) := by
  unfold Engine.work Activity.Ends
  simp only [Activity.leads_bind]
  apply Activity.leads_quiet_call fun _ => rfl
  intro start t
  have hTicked :=
    Worker.ticked_tick world.toSurroundings loaded t s.world.2
  have hRunTick := hRun (t, s.world.2)
  rcases hTick :
      loaded.tick world.toSurroundings.recorded (t, s.world.2) with
    ⟨answer, w', u⟩
  rw [hTick] at hTicked hRunTick
  apply leads_runWorker hRunTick
  · intro hAnswer
    apply Activity.leads_quiet_call fun _ => rfl
    intro stop u'
    apply Activity.Leads.mono
      (ends_handleOutcome world p (.between start stop)
        answer _ hAnswer ?_)
    · intro _ v hSettled
      exact .settled _ hTicked hAnswer hSettled
    · intro e v hSettled
      exact .settled _ hTicked hAnswer hSettled
    · rintro rfl
      rw [Engine.redeliveryOf_putWorker]
      exact hTicked.redelivery_of_failed
  · rintro rfl
    exact .cut hTicked

------------------------------------------------------------
-- Moves
------------------------------------------------------------

namespace Engine

/- The engine that takes a delivered fragment in. -/
def taking (e : Engine) (f : Fragment) : Engine :=
  { e.mark .kafka .healthy with
    metrics := e.metrics.recordFragment f.size
    offsets := e.offsets.updateCurrent f.token }

/- A worker that is opened now for a partition. -/
def openWorker
    (e : Engine)
    (p : PartitionKey)
    (now : Timestamp) : Worker :=
  .openAt p e.thresholds e.settings.buffer.commitTimeout? now

/- The gauges of an engine cannot be set, for a sum overflows. -/
def GaugesFail (e : Engine) (fault : Fault) : Prop :=
  sumBuffered 0 0 e.workers.values = .error fault ∨
    e.offsets.totalLag = .error fault

/- The metrics of an engine after its gauges were set. -/
inductive Gauged (e : Engine) : Metrics → Prop
| set
    {fragments bytes : UInt64}
    {lag : Int64}
    (hSums :
      sumBuffered 0 0 e.workers.values = .ok (fragments, bytes))
    (hLag : e.offsets.totalLag = .ok lag) :
    Gauged e
      (((e.metrics.setBuffered fragments
        bytes).setActivePartitions
          (UInt64.ofNat e.workers.size)).setConsumerLag
            (UInt64.ofNat lag.toInt.toNat))

/- Gauges that were set did not fail. -/
theorem Gauged.not_gaugesFail
    {e : Engine}
    {metrics : Metrics}
    (hGauged : e.Gauged metrics)
    (fault : Fault) :
    ¬ e.GaugesFail fault := by
  cases hGauged with
  | set hSums hLag =>
      rintro (hSumsFail | hLagFails)
      · cases hSums.symm.trans hSumsFail
      · cases hLag.symm.trans hLagFails

end Engine

/- The worker of a partition is at hand, or is opened. -/
inductive Readied
    (p : PartitionKey)
    (m : Moment) : Worker → Moment → Prop
| kept
    (w : Worker)
    (hWorker : m.engine.workers.get? p = some w) :
    Readied p m w m
| opened
    (now : Timestamp)
    (hNone : m.engine.workers.get? p = none) :
    Readied p m (m.engine.openWorker p now)
      ⟨m.engine.putWorker p (m.engine.openWorker p now),
        .clock now :: m.history⟩

/-
  The moves of a running engine.  A move goes on, or stops the
  engine with a reason.
-/
inductive Move (m : Moment) : Except Stop Unit → Moment → Prop
| unpolled :
    Move m (.error .dropped)
      ⟨m.engine, .poll .dropped :: m.history⟩
| quiet :
    Move m (.ok ())
      ⟨m.engine, .poll (.done .quiet) :: m.history⟩
| troubled
    (cause : Error)
    (backoff : Span)
    (answer : Awaited Unit) :
    Move m answer.ending
      ⟨(m.engine.count (·.recordError .kafka)).mark .kafka
          (.degraded (Engine.pollTrouble cause)),
        .sleep backoff answer ::
          .poll (.done (.failed cause backoff true)) ::
            m.history⟩
| broken (cause : Error) (backoff : Span) :
    Move m (.error (.failed cause))
      ⟨(m.engine.count (·.recordError .kafka)).mark .kafka
          (.unhealthy (Engine.pollTrouble cause)),
        .poll (.done (.failed cause backoff false)) ::
          m.history⟩
| delivered
    {f : Fragment}
    {w : Worker}
    {m₁ m' : Moment}
    {r : Except Stop Unit}
    (hReadied :
      Readied f.partitionKey
        ⟨m.engine.taking f,
          .poll (.done (.fragment f)) :: m.history⟩ w m₁)
    (hRouted : f.partitionKey = w.partition)
    (hWorked : Worked f.partitionKey (w.append f) m₁ r m') :
    Move m r m'
| misrouted
    {f : Fragment}
    {w : Worker}
    {m₁ : Moment}
    (hReadied :
      Readied f.partitionKey
        ⟨m.engine.taking f,
          .poll (.done (.fragment f)) :: m.history⟩ w m₁)
    (hMisrouted : f.partitionKey ≠ w.partition) :
    Move m (.error (.fault .misrouted)) m₁
| released (ps : List PartitionKey) :
    Move m (.ok ())
      ⟨m.engine.keepOnly ps, .assigned (.ok ps) :: m.history⟩
| unassigned (cause : Error) :
    Move m (.ok ())
      ⟨m.engine, .assigned (.error cause) :: m.history⟩
| ticked
    {p : PartitionKey}
    {w : Worker}
    {r : Except Stop Unit}
    {m' : Moment}
    (hWorker : m.engine.workers.get? p = some w)
    (hWorked : Worked p w m r m') :
    Move m r m'
| gauged
    (metrics : Metrics)
    (hGauged : m.engine.Gauged metrics) :
    Move m (.ok ())
      ⟨{ m.engine with metrics := metrics }, m.history⟩
| overflowed
    (metrics : Metrics)
    (fault : Fault)
    (hFault : m.engine.GaugesFail fault) :
    Move m (.error (.fault fault))
      ⟨{ m.engine with metrics := metrics }, m.history⟩

/- A move adds calls to the history and takes nothing from it. -/
section Calls

variable {p : PartitionKey}
variable {w : Worker}
variable {m m₁ m' : Moment}
variable {r : Except Stop Unit}

theorem Settled.calls
    {elapsed : Span}
    {answer : FlushEnd}
    (hSettled : Settled p elapsed m answer r m') :
    Grows Event.IsCall m.history m'.history := by
  have hHere := Grows.refl Event.IsCall m.history
  cases hSettled with
  | nothing => exact hHere
  | acknowledged b => exact hHere.cons trivial
  | unacknowledged b cause => exact hHere.cons trivial
  | lost b => exact hHere.cons trivial
  | halted => exact hHere.cons trivial
  | unsent => exact .cons (.cons hHere trivial) trivial
  | untracked => exact .cons (.cons hHere trivial) trivial
  | waited =>
      exact .cons (.cons (.cons hHere trivial) trivial) trivial

theorem Worked.calls
    (hWorked : Worked p w m r m') :
    Grows Event.IsCall m.history m'.history := by
  cases hWorked with
  | settled elapsed hTicked hAnswer hSettled =>
      exact hTicked.calls.trans hSettled.calls
  | cut hTicked => exact hTicked.calls

theorem Readied.calls
    (hReadied : Readied p m w m₁) :
    Grows Event.IsCall m.history m₁.history := by
  cases hReadied with
  | kept => exact .refl _ _
  | opened => exact (Grows.refl _ _).cons trivial

theorem Move.calls
    (hMove : Move m r m') :
    Grows Event.IsCall m.history m'.history := by
  have hHere := Grows.refl Event.IsCall m.history
  have hPolled (answer : Awaited Poll) :
      Grows Event.IsCall m.history (.poll answer :: m.history) :=
    hHere.cons trivial
  cases hMove with
  | troubled => exact .cons (.cons hHere trivial) trivial
  | delivered hReadied hRouted hWorked =>
      exact (hPolled _).trans
        (hReadied.calls.trans hWorked.calls)
  | misrouted hReadied =>
      exact (hPolled _).trans hReadied.calls
  | ticked hWorker hWorked => exact hWorked.calls
  | gauged => exact hHere
  | overflowed => exact hHere
  | unpolled => exact hHere.cons trivial
  | quiet => exact hHere.cons trivial
  | broken => exact hHere.cons trivial
  | released => exact hHere.cons trivial
  | unassigned => exact hHere.cons trivial

theorem Move.extends
    (hMove : Move m r m') :
    m.history <:+ m'.history :=
  hMove.calls.suffix

end Calls

------------------------------------------------------------
-- What Moves Leave Alone
------------------------------------------------------------

/- What an engine is set up with and keeps for good. -/
structure Engine.Setup where
  settings : Settings
  thresholds : Thresholds
  policy : RetryPolicy

/- The setup of an engine. -/
def Engine.setup (e : Engine) : Engine.Setup :=
  ⟨e.settings, e.thresholds, e.policy⟩

section Setup

variable {p : PartitionKey}
variable {w : Worker}
variable {m m₁ m' : Moment}
variable {r : Except Stop Unit}

theorem Settled.setup_eq
    {elapsed : Span}
    {answer : FlushEnd}
    (hSettled : Settled p elapsed m answer r m') :
    m'.engine.setup = m.engine.setup := by
  cases hSettled with
  | acknowledged b =>
      simp only [Engine.recovered]
      split <;> rfl
  | _ => rfl

theorem Worked.setup_eq
    (hWorked : Worked p w m r m') :
    m'.engine.setup = m.engine.setup := by
  cases hWorked with
  | settled elapsed hTicked hAnswer hSettled =>
      exact hSettled.setup_eq
  | cut => rfl

theorem Readied.setup_eq
    (hReadied : Readied p m w m₁) :
    m₁.engine.setup = m.engine.setup := by
  cases hReadied with
  | kept => rfl
  | opened => rfl

/- No move changes the setup. -/
theorem Move.setup_eq
    (hMove : Move m r m') :
    m'.engine.setup = m.engine.setup := by
  cases hMove with
  | delivered hReadied hRouted hWorked =>
      exact hWorked.setup_eq.trans hReadied.setup_eq
  | misrouted hReadied => exact hReadied.setup_eq
  | ticked hWorker hWorked => exact hWorked.setup_eq
  | _ => rfl

end Setup

------------------------------------------------------------
-- Chains of Moves
------------------------------------------------------------

/-
  Any number of moves of one kind, of which only the last may
  stop the engine.
-/
inductive Chain
    (R : Moment → Except Stop Unit → Moment → Prop) :
    Moment → Except Stop Unit → Moment → Prop
| done (m : Moment) : Chain R m (.ok ()) m
| stopped
    {m m' : Moment}
    {why : Stop}
    (hMove : R m (.error why) m') :
    Chain R m (.error why) m'
| go
    {m m₁ m' : Moment}
    {r : Except Stop Unit}
    (hMove : R m (.ok ()) m₁)
    (hMoves : Chain R m₁ r m') :
    Chain R m r m'

section Chain

variable {R : Moment → Except Stop Unit → Moment → Prop}
variable {m m₁ m' : Moment}
variable {r : Except Stop Unit}

theorem Chain.trans
    (hFirst : Chain R m (.ok ()) m₁)
    (hThen : Chain R m₁ r m') :
    Chain R m r m' := by
  generalize hOk : (Except.ok () : Except Stop Unit) = ok
    at hFirst
  induction hFirst with
  | done => exact hThen
  | stopped => cases hOk
  | go hMove hMoves ih => exact .go hMove (ih hThen hOk)

theorem Chain.of_move (hMove : R m r m') : Chain R m r m' := by
  cases r with
  | ok => exact .go hMove (.done m')
  | error => exact .stopped hMove

/- An activity that makes one move makes a chain of moves. -/
theorem Activity.Ends.chain
    {x : Activity (σ × History) Unit}
    {s : Session (σ × History)}
    (hEnds : x.Ends s (R s.moment)) :
    x.Ends s (Chain R s.moment) :=
  Activity.Leads.mono hEnds
    (fun _ _ hMove => .of_move hMove)
    (fun _ _ hMove => .of_move hMove)

/- Two activities that make chains of moves make one together. -/
theorem Activity.Ends.bind
    {x y : Activity (σ × History) Unit}
    {s : Session (σ × History)}
    (hFirst : x.Ends s (Chain R s.moment))
    (hThen :
      ∀ t : Session (σ × History),
        y.Ends t (Chain R t.moment)) :
    (do x; y).Ends s (Chain R s.moment) := by
  unfold Activity.Ends
  rw [Activity.leads_bind]
  apply Activity.Leads.mono hFirst
  · intro _ t hMoves
    apply Activity.Leads.mono (hThen t)
    · intro _ u hRest
      exact hMoves.trans hRest
    · intro e u hRest
      exact hMoves.trans hRest
  · intro e t hMoves
    exact hMoves

end Chain

------------------------------------------------------------
-- Steps
------------------------------------------------------------

/- The worker of a partition is readied before it is used. -/
theorem leads_workerOf
    (world : World σ)
    (p : PartitionKey)
    (s : Session (σ × History))
    {Q : Worker → Session (σ × History) → Prop}
    {E : Stop → Session (σ × History) → Prop}
    (hReadied :
      ∀ w t, Readied p s.moment w t.moment → Q w t) :
    (Engine.workerOf world.recorded p).Leads s Q E := by
  unfold Engine.workerOf
  rw [Activity.leads_bind, Activity.leads_engine]
  cases hWorker : s.engine.workers.get? p with
  | some w => exact hReadied w s (.kept w hWorker)
  | none =>
      rw [Activity.leads_bind]
      apply Activity.leads_noted_call .clock fun _ => rfl
      intro now t
      exact hReadied _ _ (.opened now hWorker)

/- A misrouted fragment stops the engine before a worker is run. -/
theorem leads_work_fault
    (world : World σ)
    (p : PartitionKey)
    (w : Worker)
    (f :
      Worker → σ × History →
        Except Fault (FlushEnd × Worker × (σ × History)))
    (s : Session (σ × History))
    {fault : Fault}
    {R : Except Stop Unit → Moment → Prop}
    (hRun : ∀ t, f w t = .error fault)
    (hFault : R (.error (.fault fault)) s.moment) :
    (Engine.work world.recorded p w f).Ends s R := by
  unfold Engine.work Engine.runWorker Activity.Ends
  simp only [Activity.leads_bind]
  apply Activity.leads_quiet_call fun _ => rfl
  intro start t
  rw [Activity.leads_get, hRun]
  apply Activity.leads_orFault
  · rintro a ⟨⟩
  · rintro fault ⟨⟩
    exact hFault

/- A delivered fragment is taken in by the worker of its partition. -/
theorem ends_ingest
    (world : World σ)
    (f : Fragment)
    (e : Engine)
    (t : σ)
    (h : History)
    {R : Except Stop Unit → Moment → Prop}
    (hDelivered :
      ∀ w m₁ r m',
        Readied f.partitionKey ⟨e.taking f, h⟩ w m₁ →
          f.partitionKey = w.partition →
            Worked f.partitionKey (w.append f) m₁ r m' →
              R r m')
    (hMisrouted :
      ∀ w m₁,
        Readied f.partitionKey ⟨e.taking f, h⟩ w m₁ →
          f.partitionKey ≠ w.partition →
            R (.error (.fault .misrouted)) m₁) :
    (Engine.ingest world.recorded f).Ends
      ⟨e.mark .kafka .healthy, t, h⟩ R := by
  unfold Engine.ingest Activity.Ends
  rw [Activity.leads_bind, Activity.leads_update,
    Activity.leads_bind]
  apply leads_workerOf
  intro w u hReadied
  by_cases hRouted : f.partitionKey = w.partition
  · apply Activity.Leads.mono
      (ends_work world f.partitionKey w (w.append f)
        (Worker.submit world.toSurroundings.recorded f) u
        fun t => if_pos hRouted)
    · intro _ v hWorked
      exact hDelivered w u.moment _ _ hReadied hRouted hWorked
    · intro why v hWorked
      exact hDelivered w u.moment _ _ hReadied hRouted hWorked
  · exact leads_work_fault world f.partitionKey w _ u
      (fun t => if_neg hRouted)
      (hMisrouted w u.moment hReadied hRouted)

/- A poll and what it brings make one move. -/
theorem ends_poll
    (world : World σ)
    (s : Session (σ × History)) :
    Activity.Ends
      (do
        Engine.handlePoll world.recorded
          (← Activity.await world.recorded.poll))
      s (Move s.moment) := by
  unfold Activity.Ends
  rw [Activity.leads_bind]
  apply Activity.leads_noted_await .poll fun _ => rfl
  · intro answer t
    cases answer with
    | quiet => exact .quiet
    | fragment f =>
        apply ends_ingest
        · intro w m₁ r m' hReadied hRouted hWorked
          exact .delivered (m := s.moment)
            hReadied hRouted hWorked
        · intro w m₁ hReadied hMisrouted
          exact .misrouted (m := s.moment) hReadied hMisrouted
    | failed cause backoff goOn =>
        unfold Engine.handlePoll
        rw [Activity.leads_bind, Activity.leads_update]
        cases goOn with
        | false => exact .broken cause backoff
        | true =>
            rw [if_pos rfl, Activity.leads_bind,
              Activity.leads_update]
            apply Activity.leads_noted_await (.sleep backoff)
              fun _ => rfl
            · intro answer u
              exact .troubled cause backoff (.done answer)
            · intro u
              exact .troubled cause backoff .dropped
  · intro t
    exact .unpolled

/- The assignment is read, and followed, in one move. -/
theorem ends_releaseRevoked
    (world : World σ)
    (s : Session (σ × History)) :
    (Engine.releaseRevoked world.recorded).Ends s
      (Move s.moment) := by
  unfold Engine.releaseRevoked Activity.Ends
  rw [Activity.leads_bind]
  apply Activity.leads_noted_call .assigned fun _ => rfl
  intro answer t
  cases answer with
  | error cause => exact .unassigned cause
  | ok ps => exact .released ps

/- A worker that is visited is worked, if the partition still has one. -/
theorem ends_tickOne_of
    (world : World σ)
    (p : PartitionKey)
    (s : Session (σ × History))
    {R : Except Stop Unit → Moment → Prop}
    (hNone :
      s.engine.workers.get? p = none → R (.ok ()) s.moment)
    (hWorked :
      ∀ w r m',
        s.engine.workers.get? p = some w →
          Worked p w s.moment r m' →
            R r m') :
    (Engine.tickOne world.recorded p).Ends s R := by
  unfold Engine.tickOne Activity.Ends
  rw [Activity.leads_bind, Activity.leads_engine]
  cases hWorker : s.engine.workers.get? p with
  | none => exact hNone hWorker
  | some w =>
      apply Activity.Leads.mono
        (ends_work world p w w _ s fun t => rfl)
      · intro _ t hTicked
        exact hWorked w _ _ hWorker hTicked
      · intro why t hTicked
        exact hWorked w _ _ hWorker hTicked

/- So it makes one move at most. -/
theorem ends_tickOne
    (world : World σ)
    (p : PartitionKey)
    (s : Session (σ × History)) :
    (Engine.tickOne world.recorded p).Ends s
      (Chain Move s.moment) :=
  ends_tickOne_of world p s
    (fun _ => .done s.moment)
    (fun _ _ _ hWorker hWorked =>
      .of_move (.ticked hWorker hWorked))

theorem ends_tickEach
    (world : World σ)
    (ps : List PartitionKey)
    (s : Session (σ × History)) :
    (Engine.tickEach world.recorded ps).Ends s
      (Chain Move s.moment) := by
  induction ps generalizing s with
  | nil => exact .done s.moment
  | cons p ps ih => exact (ends_tickOne world p s).bind ih

theorem ends_tickAll
    (world : World σ)
    (s : Session (σ × History)) :
    (Engine.tickAll world.recorded).Ends s
      (Chain Move s.moment) := by
  unfold Engine.tickAll Engine.visited Activity.Ends
  simp only [Activity.leads_bind]
  rw [Activity.leads_engine]
  apply Activity.leads_quiet_call fun _ => rfl
  intro order t
  exact ends_tickEach world order.1 ⟨s.engine, t, s.world.2⟩

/- The gauges are set, or a sum overflows. -/
theorem leads_updateGauges
    {s : Session σ}
    {Q : Unit → Session σ → Prop}
    {E : Stop → Session σ → Prop}
    (hSet :
      ∀ metrics, s.engine.Gauged metrics →
        Q () ⟨{ s.engine with metrics := metrics }, s.world⟩)
    (hFault :
      ∀ metrics fault, s.engine.GaugesFail fault →
        E (.fault fault)
          ⟨{ s.engine with metrics := metrics }, s.world⟩) :
    Engine.updateGauges.Leads s Q E := by
  unfold Engine.updateGauges
  rw [Activity.leads_bind, Activity.leads_engine,
    Activity.leads_bind]
  apply Activity.leads_orFault
  · rintro ⟨fragments, bytes⟩ hSums
    simp only [Activity.leads_bind]
    rw [Activity.leads_update]
    apply Activity.leads_orFault
    · intro lag hLag
      exact hSet _ (.set hSums hLag)
    · intro fault hLag
      exact hFault _ fault (.inr hLag)
  · intro fault hSums
    exact hFault s.engine.metrics fault (.inl hSums)

theorem ends_updateGauges (s : Session (σ × History)) :
    Engine.updateGauges.Ends s (Move s.moment) :=
  leads_updateGauges
    (fun metrics hGauged => .gauged metrics hGauged)
    (fun metrics fault hFault =>
      .overflowed metrics fault hFault)

/- Every step of an engine is made of moves. -/
theorem ends_step
    (world : World σ)
    (s : Session (σ × History)) :
    (Engine.step world.recorded).Ends s (Chain Move s.moment) := by
  have hStep :
      Engine.step world.recorded =
        (do
          (do
            Engine.handlePoll world.recorded
              (← Activity.await world.recorded.poll))
          Engine.releaseRevoked world.recorded
          Engine.tickAll world.recorded
          Engine.updateGauges) := by
    unfold Engine.step
    rw [bind_assoc]
  rw [hStep]
  refine (ends_poll world s).chain.bind fun t => ?_
  refine (ends_releaseRevoked world t).chain.bind fun u => ?_
  refine (ends_tickAll world u).bind fun v => ?_
  exact (ends_updateGauges v).chain

end FragmentSink
