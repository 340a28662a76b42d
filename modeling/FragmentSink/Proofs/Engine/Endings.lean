import FragmentSink.Proofs.Engine.Balance
import FragmentSink.Proofs.Engine.Consistency
import FragmentSink.Proofs.Engine.Finish
import FragmentSink.Proofs.Engine.Stops
import Mathlib

/-
  How runs end, and what readiness says meanwhile.

  A run fails exactly with the error its steps were stopped by
  and ends well exactly after a shutdown, unless the gauges
  that are set last overflow.  Then it reads nothing more, and
  every worker is flushed once at most.  An engine is ready at
  each of its polls, and unhealthy only once it has failed.

  Main declarations:
    * `Move.ready`
    * `FlushedEach.unasked`
    * `Finishes`
    * `finishes_of_run`
-/

namespace FragmentSink

variable {σ : Type}
variable {p : PartitionKey}
variable {policy : RetryPolicy}
variable {h h' : History}
variable {w w' : Worker}
variable {start m m₁ m' : Moment}
variable {r : Except Stop Unit}
variable {answer : FlushEnd}

------------------------------------------------------------
-- Readiness
------------------------------------------------------------

/- A status that is not unhealthy leaves the whole ready. -/
theorem Health.isReady_mark
    {health : Health}
    {s : ComponentStatus}
    (c : Component)
    (hReady : health.isReady = true)
    (hStatus : s.isUnhealthy = false) :
    (health.mark c s).isReady = true := by
  unfold isReady at hReady ⊢
  rw [Bool.and_eq_true, operational_iff] at hReady ⊢
  refine ⟨hReady.1, ?_⟩
  intro u hMem
  rcases Table.eq_or_mem_of_mem_values_insert hMem with rfl | hOld
  · exact hStatus
  · exact hReady.2 u hOld

theorem Health.not_unhealthy_of_isReady
    {health : Health}
    (hReady : health.isReady = true) :
    ∀ s ∈ health.components.values, s.isUnhealthy = false := by
  unfold isReady at hReady
  rw [Bool.and_eq_true, operational_iff] at hReady
  exact hReady.2

/- A moment of an engine that reports itself ready. -/
def Moment.Ready (m : Moment) : Prop :=
  m.engine.health.isReady = true

/- An engine that has just been started is ready. -/
theorem Engine.ready_started
    (settings : Settings) :
    Moment.Ready ⟨(fresh settings).started, []⟩ := by
  have hHealth :
      ((Health.forIngestion.mark .storage .healthy
        ).consumerStarted).isReady = true := by
    decide +kernel
  exact hHealth

/- An outcome leaves the engine ready, unless an error stops it. -/
theorem Settled.ready
    {elapsed : Span}
    (hSettled : Settled p elapsed m answer r m')
    (hReady : m.Ready)
    (hGoesOn : ∀ cause, r ≠ .error (.failed cause)) :
    m'.Ready := by
  have hFailing :
      (m.engine.failing p elapsed).health.isReady = true :=
    Health.isReady_mark .buffer
      (Health.isReady_mark .storage hReady rfl) rfl
  cases hSettled with
  | nothing => exact hReady
  | acknowledged b =>
      unfold Moment.Ready
      simp only [Engine.recovered]
      split
      case isTrue =>
        exact Health.isReady_mark .buffer
          (Health.isReady_mark .storage hReady rfl) rfl
      case isFalse => exact hReady
  | unacknowledged b cause => exact absurd rfl (hGoesOn cause)
  | lost b => exact hReady
  | halted => exact absurd rfl (hGoesOn _)
  | unsent n backoff offset cause =>
      exact absurd rfl (hGoesOn cause)
  | untracked => exact hFailing
  | waited => exact hFailing

theorem Worked.ready
    (hWorked : Worked p w m r m')
    (hReady : m.Ready)
    (hGoesOn : ∀ cause, r ≠ .error (.failed cause)) :
    m'.Ready := by
  cases hWorked with
  | settled elapsed hTicked hAnswer hSettled =>
      exact hSettled.ready hReady hGoesOn
  | cut => exact hReady

theorem Readied.ready
    (hReadied : Readied p m w m₁)
    (hReady : m.Ready) :
    m₁.Ready := by
  cases hReadied with
  | kept => exact hReady
  | opened => exact hReady

/- A move leaves the engine ready, unless an error stops it. -/
theorem Move.ready
    (hMove : Move m r m')
    (hReady : m.Ready)
    (hGoesOn : ∀ cause, r ≠ .error (.failed cause)) :
    m'.Ready := by
  have hTaking
      (f : Fragment) :
      (m.engine.taking f).health.isReady = true :=
    Health.isReady_mark .kafka hReady rfl
  cases hMove with
  | troubled cause backoff answer =>
      exact Health.isReady_mark .kafka hReady rfl
  | broken cause => exact absurd rfl (hGoesOn cause)
  | @delivered f w m₁ m' r hReadied hRouted hWorked =>
      exact hWorked.ready (hReadied.ready (hTaking f)) hGoesOn
  | @misrouted f w m₁ hReadied => exact hReadied.ready (hTaking f)
  | ticked hWorker hWorked => exact hWorked.ready hReady hGoesOn
  | _ => exact hReady

/- So a loop stays ready until an error stops it. -/
theorem Reaches.ready
    (hReaches : Reaches start (.after r) m)
    (hStart : start.Ready) :
    (∀ cause, r ≠ .error (.failed cause)) → m.Ready :=
  hReaches.loop_induction
    (motive := fun r m =>
      (∀ cause, r ≠ .error (.failed cause)) → m.Ready)
    (fun _ => hStart)
    fun _ _ _ _ hBefore hMove hGoesOn =>
      hMove.ready (hBefore nofun) hGoesOn

------------------------------------------------------------
-- After the Final Flush
------------------------------------------------------------

/- Something is asked of the stream: its next fragment, or a rewind. -/
def Event.Asks : Event → Prop
| .poll _ => True
| .rewind _ _ _ => True
| _ => False

/- A final flush asks nothing of the stream. -/
theorem FlushedEach.unasked
    {ps : List PartitionKey}
    (hFlushed : FlushedEach ps m r m') :
    Grows (fun e => ¬ e.Asks) m.history m'.history :=
  hFlushed.grows (fun _ => id) (fun _ _ => id) fun _ _ => id

theorem FlushedEach.health_eq
    {ps : List PartitionKey}
    (hFlushed : FlushedEach ps m r m') :
    m'.engine.health = m.engine.health :=
  hFlushed.keeps
    (R := fun m m' => m'.engine.health = m.engine.health)
    (fun _ => rfl)
    (fun hFirst hThen => hThen.trans hFirst)
    fun hOut => FlushMove.health_eq ⟨_, hOut⟩

/-
  What follows on a moment at which a run was stopped: each of
  some partitions, no two of them the same, is flushed, and
  nothing is asked of the stream any more.
-/
structure FlushedOnce (m₀ m : Moment) : Prop where
  flushed :
    ∃ ps r e,
      ps.Nodup ∧ e.workers = m.engine.workers ∧
        FlushedEach ps ⟨m₀.engine, .closing :: m₀.history⟩ r
          ⟨e, m.history⟩
  unasked :
    Grows (fun e => ¬ e.Asks) (.closing :: m₀.history) m.history

theorem FlushedAll.once
    {m₀ : Moment}
    (hFlushed : FlushedAll m₀ r m) :
    FlushedOnce m₀ m := by
  rcases hFlushed with ⟨ps, hPerm, hEach⟩
  have hNodup : ps.Nodup :=
    hPerm.nodup_iff.mpr m₀.engine.workers.nodup
  exact ⟨⟨ps, r, m.engine, hNodup, rfl, hEach⟩, hEach.unasked⟩

------------------------------------------------------------
-- Finished Runs
------------------------------------------------------------

/-
  How a run ends, given how its steps did.  They are stopped
  by the first thing that stops a loop, and the run ends for
  that reason unless the final gauges overflow.
-/
structure Finishes
    (policy : RetryPolicy)
    (r : Except Stop Unit)
    (t : Session (σ × History))
    (run : Engine.Run (σ × History)) : Prop where
  stops :
    ∀ why,
      Stops policy t.world.2 why ↔
        r = .error why ∧ ∀ fault, why ≠ .fault fault
  first :
    ∀ rest earlier why,
      t.world.2 = rest ++ earlier →
      Stops policy earlier why →
      rest = []
  failed :
    ∀ cause,
      run.ending = .failed cause ↔
        r = .error (.failed cause) ∧
          ∀ fault, ¬ run.last.engine.GaugesFail fault
  stopped :
    run.ending = .stopped ↔
      r = .error .dropped ∧
        ∀ fault, ¬ run.last.engine.GaugesFail fault
  flushed :
    run.ending.IsClosed → FlushedOnce t.moment run.last.moment
  unready :
    run.ending.IsClosed → run.last.engine.health.isReady = false
  ready :
    ∀ u ∈ run.atPolls,
      u.engine.health.isReady = true ∧
        ∀ s ∈ u.engine.health.components.values,
          s.isUnhealthy = false
  healthy :
    (∀ cause, r ≠ .error (.failed cause)) →
      ∀ s ∈ run.last.engine.health.components.values,
        s.isUnhealthy = false

theorem Engine.RunEnd.ofStop_injective
    {why why' : Stop}
    (hEnding : ofStop why = ofStop why') :
    why = why' := by
  cases why <;> cases why' <;> cases hEnding <;> rfl

section Ended

variable {ending : Engine.RunEnd}

/- A run ends for the reason its steps were stopped for. -/
theorem Ended.eq_ofStop_iff
    (hEnded : Ended r m ending m')
    (why : Stop)
    (hWhy : ∀ fault, why ≠ .fault fault) :
    ending = .ofStop why ↔
      r = .error why ∧ ∀ fault, ¬ m'.engine.GaugesFail fault := by
  have hNoFault
      {fault : Fault}
      (hEnding :
        Engine.RunEnd.ofStop (.fault fault) = .ofStop why) :
      False :=
    hWhy fault (Engine.RunEnd.ofStop_injective hEnding).symm
  cases hEnded with
  | unfinished =>
      constructor
      · intro hEnding
        cases why <;> cases hEnding
      · rintro ⟨⟨⟩, -⟩
  | faulted fault =>
      constructor
      · intro hEnding
        cases hNoFault hEnding
      · rintro ⟨hStopped, -⟩
        cases hStopped
        exact absurd rfl (hWhy fault)
  | closed hReason hFlushed hGauged =>
      constructor
      · intro hEnding
        cases Engine.RunEnd.ofStop_injective hEnding
        exact ⟨rfl, hGauged.not_gaugesFail⟩
      · rintro ⟨hStopped, -⟩
        cases hStopped
        rfl
  | overflowed metrics fault hReason hFlushed hFault =>
      constructor
      · intro hEnding
        cases hNoFault hEnding
      · rintro ⟨-, hNoFail⟩
        exact absurd hFault (hNoFail fault)

/- One that ended after its final flush is not ready any more. -/
theorem Ended.flushed
    (hEnded : Ended r m ending m')
    (hClosed : ending.IsClosed) :
    FlushedOnce m m' ∧ m'.engine.health.isReady = false := by
  cases hEnded with
  | unfinished => cases hClosed
  | faulted => cases hClosed
  | closed hReason hFlushed hGauged =>
      have hOnce := hFlushed.once
      exact ⟨⟨hOnce.flushed, hOnce.unasked⟩, rfl⟩
  | overflowed => cases hClosed

/- Its components are as its steps left them. -/
theorem Ended.components_eq
    (hEnded : Ended r m ending m') :
    m'.engine.health.components = m.engine.health.components := by
  have hComponents
      {r : Except Stop Unit}
      {m m' : Moment}
      (hFlushed : FlushedAll m r m') :
      m'.engine.health.components =
        m.engine.health.components := by
    rcases hFlushed with ⟨ps, -, hEach⟩
    rw [hEach.health_eq]
  cases hEnded with
  | unfinished => rfl
  | faulted => rfl
  | closed hReason hFlushed =>
      have hSame := hComponents hFlushed
      exact hSame
  | overflowed metrics fault hReason hFlushed =>
      have hSame := hComponents hFlushed
      exact hSame

end Ended

/-
  Every run ends as its steps did: it fails with the first
  error for good, and ends well once a wait was dropped.  It
  was ready at all its polls, and is not ready after its end.
-/
theorem finishes_of_run
    (world : World σ)
    {settings : Settings}
    {e : Engine}
    (hEngine : Engine.ofSettings settings = .ok e)
    (steps : Nat)
    (s : σ) :
    ∃ r t,
      (Engine.stepping world.recorded steps).run.run
          ⟨e.started, s, []⟩ = (r, t) ∧
        Finishes e.policy r t
          (Engine.run world.recorded steps e (s, [])) := by
  rcases Engine.eq_fresh_of_ofSettings hEngine with
    ⟨rfl, hPolicy⟩
  have hKeyed : (Engine.fresh settings).started.Keyed := nofun
  have hSpared (p : PartitionKey) :
      Spared (Engine.fresh settings).policy p
        ⟨(Engine.fresh settings).started, []⟩ :=
    ⟨⟨rfl, rfl⟩, .fresh⟩
  have hReady := Engine.ready_started settings
  rcases ended_run world steps (.fresh settings) s [] with
    ⟨r, t, hSteps, hEnded⟩
  have hReaches := reaches_stepping world steps hSteps
  have hTold := hReaches.told
  have hTallied (p : PartitionKey) :=
    hReaches.tallied hKeyed (hSpared p) hPolicy
  refine ⟨r, t, hSteps, ?_, ?_, ?_, ?_, ?_, ?_, ?_, ?_⟩
  · intro why
    exact hTold.stops_iff hPolicy hTallied
  · intro rest earlier why hSplit hStops
    exact (hTold.eq_of_stops hPolicy hTallied hSplit hStops).1
  · intro cause
    exact hEnded.eq_ofStop_iff (.failed cause) nofun
  · exact hEnded.eq_ofStop_iff .dropped nofun
  · exact fun hClosed => (hEnded.flushed hClosed).1
  · exact fun hClosed => (hEnded.flushed hClosed).2
  · intro u hPoll
    have hLoop :
        Reaches ⟨(Engine.fresh settings).started, []⟩
          (.after (.ok ())) u.moment :=
      (run_reaches world steps (.fresh settings) s []).1 u hPoll
    have hHere := hLoop.ready hReady nofun
    exact ⟨hHere, Health.not_unhealthy_of_isReady hHere⟩
  · intro hGoesOn
    have hLast := hReaches.ready hReady hGoesOn
    have hComponents := hEnded.components_eq
    unfold Session.moment at hComponents
    rw [hComponents]
    exact Health.not_unhealthy_of_isReady hLast

theorem finishes_of_haltedRun :
    Engine.ofSettings failingSettings =
        .ok (.fresh failingSettings) ∧
      haltedRun.ending = .failed .bufferCommitFailed ∧
      ∃ r t,
        (Engine.stepping Script.world.recorded 9).run.run
            ⟨(Engine.fresh failingSettings).started,
              failingScript, []⟩ = (r, t) ∧
          Finishes (.forBufferCommit 2) r t haltedRun := by
  have hEngine :
      Engine.ofSettings failingSettings =
        .ok (.fresh failingSettings) :=
    rfl
  refine ⟨hEngine, ?_, ?_⟩
  · decide +kernel
  · rw [haltedRun]
    exact finishes_of_run Script.world hEngine 9 failingScript

/- Settings under which the first failed commit is the last. -/
def strictSettings : Settings :=
  { Script.settings with
    buffer := { sizeInBytes := 10, maxConsecutiveFailures := 1 } }

/-
  Two partitions are read far ahead of what is committed, and
  the storage refuses whatever is flushed.
-/
def Script.farAhead : Script where
  polls :=
    [.fragment ⟨.empty, 1, ⟨partition, 5000000000000000000⟩⟩,
      .fragment ⟨.empty, 10, ⟨foreign, 5000000000000000000⟩⟩]
  uploads := [.refused, .refused]
  assigned := [partition, foreign]

@[irreducible] def farAheadSteps :
    Except Stop Unit × Session (Script × History) :=
  (Engine.stepping Script.world.recorded 9).run.run
    ⟨(Engine.fresh strictSettings).started, Script.farAhead, []⟩

@[irreducible] def farAheadRun : Engine.Run (Script × History) :=
  Engine.run Script.world.recorded 9 (.fresh strictSettings)
    (Script.farAhead, [])

/-
  The steps are stopped by the failed commit, but the run does
  not end with it: the lags add up to more than a word holds.
-/
theorem not_failed_of_farAheadRun :
    Engine.ofSettings strictSettings =
        .ok (.fresh strictSettings) ∧
      farAheadSteps.1 = .error (.failed .bufferCommitFailed) ∧
      farAheadRun.ending = .fault .addition ∧
      ¬ ∀ cause,
        farAheadRun.ending = .failed cause ↔
          farAheadSteps.1 = .error (.failed cause) := by
  have hStopped :
      farAheadSteps.1 = .error (.failed .bufferCommitFailed) := by
    decide +kernel
  -- The kernel does not sort the partitions whose lags are added.
  have hEnding : farAheadRun.ending = .fault .addition := by
    unfold farAheadRun
    decide_cbv
  refine ⟨rfl, hStopped, hEnding, ?_⟩
  intro hExactly
  have hFailed := (hExactly .bufferCommitFailed).mpr hStopped
  cases hEnding.symm.trans hFailed

end FragmentSink
