import FragmentSink.Proofs.Engine.Attempts
import FragmentSink.Proofs.Engine.Endings
import FragmentSink.Proofs.Engine.Outlines

/-
  Which errors of the stream an engine counts and shows.

  A stream answers polls, offset commits and rewinds with
  errors.  A running engine counts those of polls and commits,
  and shows the stream unhealthy when one of them stops it.
  Two kinds go unnoticed: the error of a rewind, which stops
  the engine all the same, and those of the final flush.

  Main declarations:
    * `History.streamErrors`
    * `Moment.Notes`
    * `FailedWith`
    * `NoticesErrors`
    * `streamErrors_of_run`
-/

namespace FragmentSink

open History

variable {p : PartitionKey}
variable {w w' : Worker}
variable {h h' : History}
variable {m m₁ m' start : Moment}
variable {r : Except Stop Unit}
variable {answer : FlushEnd}
variable {cause : Error}

------------------------------------------------------------
-- Errors of the Stream
------------------------------------------------------------

namespace Event

/- A poll is answered with an error, for good or not. -/
def failsPoll : Event → Bool
| .poll (.done (.failed _ _ _)) => true
| _ => false

/- An offset commit is answered with an error. -/
def failsCommit : Event → Bool
| .commit _ (.done (.error _)) => true
| _ => false

/- A rewind is answered with an error. -/
def failsRewind : Event → Bool
| .rewind _ _ (.error _) => true
| _ => false

/- A loop does not outlive the error of a rewind. -/
theorem GoesOn.failsRewind_eq
    {e : Event}
    (hGoesOn : e.GoesOn) :
    e.failsRewind = false := by
  cases hFails : e.failsRewind with
  | false => rfl
  | true =>
      unfold failsRewind at hFails
      split at hFails
      case h_1 => cases hGoesOn
      case h_2 => cases hFails

end Event

namespace History

/- The polls that were answered with an error. -/
def failedPolls (h : History) : Nat :=
  h.countP Event.failsPoll

/- The offset commits that were. -/
def failedCommits (h : History) : Nat :=
  h.countP Event.failsCommit

/- The rewinds that were. -/
def failedRewinds (h : History) : Nat :=
  h.countP Event.failsRewind

/- All errors that the stream answered an engine with. -/
def streamErrors (h : History) : Nat :=
  h.failedPolls + h.failedCommits + h.failedRewinds

end History

------------------------------------------------------------
-- Counted Errors
------------------------------------------------------------

/- The metrics have counted the errors of polls, and so many others. -/
def Moment.Notes (m : Moment) (others : Nat) : Prop :=
  m.engine.metrics.errors .kafka =
    UInt64.ofNat (m.history.failedPolls + others)

/- The metrics have counted the errors of polls and commits. -/
def Moment.NotesAll (m : Moment) : Prop :=
  m.Notes m.history.failedCommits

theorem Moment.NotesAll.of_eq
    (hNotes : m.NotesAll)
    (hErrors :
      m'.engine.metrics.errors .kafka =
        m.engine.metrics.errors .kafka)
    (hPolls : m'.history.failedPolls = m.history.failedPolls)
    (hCommits :
      m'.history.failedCommits = m.history.failedCommits) :
    m'.NotesAll := by
  unfold NotesAll Notes
  rw [hErrors, hPolls, hCommits]
  exact hNotes

/- One more error is counted where one more was answered. -/
theorem Moment.NotesAll.recordError
    (hNotes : m.NotesAll)
    (hErrors :
      m'.engine.metrics.errors .kafka =
        (m.engine.metrics.recordError .kafka).errors .kafka)
    (hMore :
      m'.history.failedPolls + m'.history.failedCommits =
        m.history.failedPolls + m.history.failedCommits + 1) :
    m'.NotesAll := by
  have hBefore :
      m.engine.metrics.errors .kafka =
        UInt64.ofNat
          (m.history.failedPolls + m.history.failedCommits) :=
    hNotes
  unfold NotesAll Notes
  rw [hErrors, hMore]
  simp [Metrics.recordError, bump, hBefore, UInt64.ofNat_add]

/- Setting the gauges counts nothing. -/
theorem Engine.Gauged.errors_eq
    {e : Engine}
    {metrics : Metrics}
    (hGauged : e.Gauged metrics) :
    metrics.errors = e.metrics.errors := by
  cases hGauged
  rfl

/- Settling an outcome counts the error of an offset commit. -/
theorem Settled.notesAll
    {elapsed : Span}
    (hSettled : Settled p elapsed m answer r m')
    (hNotes : m.NotesAll) :
    m'.NotesAll := by
  cases hSettled with
  | nothing => exact hNotes
  | acknowledged b =>
      refine hNotes.of_eq ?_ rfl rfl
      rw [Engine.metrics_recovered]
      rfl
  | unacknowledged b cause =>
      refine hNotes.recordError rfl ?_
      rw [failedCommits, List.countP_cons_of_pos rfl]
      rfl
  | lost => exact hNotes.of_eq rfl rfl rfl
  | halted => exact hNotes.of_eq rfl rfl rfl
  | unsent => exact hNotes.of_eq rfl rfl rfl
  | untracked => exact hNotes.of_eq rfl rfl rfl
  | waited => exact hNotes.of_eq rfl rfl rfl

/- Nothing is asked of the stream in a tick. -/
theorem Worker.Ticked.streamErrors_eq
    (hTicked : w.Ticked h answer w' h') :
    h'.failedPolls = h.failedPolls ∧
      h'.failedCommits = h.failedCommits :=
  ⟨(hTicked.grows (fun _ => rfl) fun _ _ _ => rfl).countP_eq,
    (hTicked.grows (fun _ => rfl) fun _ _ _ => rfl).countP_eq⟩

theorem Worked.notesAll
    (hWorked : Worked p w m r m')
    (hNotes : m.NotesAll) :
    m'.NotesAll := by
  cases hWorked with
  | @settled _ w' h' _ _ elapsed hTicked hAnswer hSettled =>
      rcases hTicked.streamErrors_eq with ⟨hPolls, hCommits⟩
      exact hSettled.notesAll (hNotes.of_eq rfl hPolls hCommits)
  | cut hTicked =>
      rcases hTicked.streamErrors_eq with ⟨hPolls, hCommits⟩
      exact hNotes.of_eq rfl hPolls hCommits

theorem Readied.notesAll
    (hReadied : Readied p m w m₁)
    (hNotes : m.NotesAll) :
    m₁.NotesAll := by
  cases hReadied with
  | kept => exact hNotes
  | opened => exact hNotes.of_eq rfl rfl rfl

/-
  A move counts the errors of polls and commits.  Gauges that
  overflow leave the metrics as they may be.
-/
theorem Move.notesAll
    (hMove : Move m r m')
    (hNotes : m.NotesAll)
    (hWhy : ∀ fault, r ≠ .error (.fault fault)) :
    m'.NotesAll := by
  have hPolled
      (cause : Error)
      (backoff : Span)
      (goOn : Bool) :
      failedPolls
          (.poll (.done (.failed cause backoff goOn)) ::
            m.history) +
          m.history.failedCommits =
        m.history.failedPolls + m.history.failedCommits + 1 := by
    rw [failedPolls, List.countP_cons_of_pos rfl,
      Nat.add_right_comm]
    rfl
  cases hMove with
  | unpolled => exact hNotes.of_eq rfl rfl rfl
  | quiet => exact hNotes.of_eq rfl rfl rfl
  | troubled cause backoff =>
      exact hNotes.recordError rfl (hPolled cause backoff true)
  | broken cause backoff =>
      exact hNotes.recordError rfl (hPolled cause backoff false)
  | @delivered f _ _ _ _ hReadied hRouted hWorked =>
      have hTaken :
          Moment.NotesAll
            ⟨m.engine.taking f,
              .poll (.done (.fragment f)) :: m.history⟩ :=
        hNotes.of_eq rfl rfl rfl
      exact hWorked.notesAll (hReadied.notesAll hTaken)
  | misrouted => exact absurd rfl (hWhy _)
  | released => exact hNotes.of_eq rfl rfl rfl
  | unassigned => exact hNotes.of_eq rfl rfl rfl
  | ticked hWorker hWorked => exact hWorked.notesAll hNotes
  | gauged metrics hGauged =>
      exact hNotes.of_eq (congrFun hGauged.errors_eq _) rfl rfl
  | overflowed => exact absurd rfl (hWhy _)

/- So does a loop, unless a fault stops it. -/
theorem Reaches.notesAll
    (hReaches : Reaches start (.after r) m)
    (hStart : start.NotesAll) :
    (∀ fault, r ≠ .error (.fault fault)) → m.NotesAll :=
  hReaches.loop_induction
    (motive := fun r m =>
      (∀ fault, r ≠ .error (.fault fault)) → m.NotesAll)
    (fun _ => hStart)
    fun _ _ _ _ hBefore hMove hWhy =>
      hMove.notesAll (hBefore (by simp)) hWhy

------------------------------------------------------------
-- Shown Errors
------------------------------------------------------------

/- What an engine shows for the stream. -/
def Moment.stream? (m : Moment) : Option ComponentStatus :=
  m.engine.health.status? Component.kafka.name

/- What is shown is unhealthy, for whatever reason. -/
def Unhealthy (shown : Option ComponentStatus) : Prop :=
  ∃ why, shown = some (.unhealthy why)

/- An engine that is ready shows a stream that is not unhealthy. -/
theorem Moment.Ready.not_unhealthy
    (hReady : m.Ready) :
    ¬ Unhealthy m.stream? := by
  rintro ⟨why, hShown⟩
  have hAll := Health.not_unhealthy_of_isReady hReady
  cases hAll _ (Table.mem_values_of_get? hShown)

/-
  An error stopped a loop, with what is shown for the stream
  since.  The error of a poll or an offset commit is shown,
  that of a rewind is not, nor is a batch that failed once too
  often an error of the stream.
-/
inductive FailedWith
    (cause : Error)
    (shown : Option ComponentStatus) : History → Prop
| poll
    (backoff : Span)
    (earlier : History)
    (hShown :
      shown = some (.unhealthy (Engine.pollTrouble cause))) :
    FailedWith cause shown
      (.poll (.done (.failed cause backoff false)) :: earlier)
| commit
    (t : OffsetToken)
    (earlier : History)
    (hShown : shown = some (Engine.commitTrouble cause)) :
    FailedWith cause shown
      (.commit t (.done (.error cause)) :: earlier)
| rewind
    (p : PartitionKey)
    (offset : Int64)
    (earlier : History)
    (hShown : ¬ Unhealthy shown) :
    FailedWith cause shown
      (.rewind p offset (.error cause) :: earlier)
| batch
    (n : UInt64)
    (earlier : History)
    (hCause : cause = .bufferCommitFailed)
    (hShown : ¬ Unhealthy shown) :
    FailedWith cause shown (.noise n :: earlier)

/- An outcome that stops the engine shows the error of a commit. -/
theorem Settled.failedWith
    {elapsed : Span}
    (hSettled : Settled p elapsed m answer r m')
    (hReady : m.Ready)
    (hFailed : r = .error (.failed cause)) :
    FailedWith cause m'.stream? m'.history := by
  have hCalm := hReady.not_unhealthy
  have hAside
      {e : Engine}
      {h : History}
      (hSame :
        e.health.status? Component.kafka.name =
          m.engine.health.status? Component.kafka.name) :
      ¬ Unhealthy (Moment.stream? ⟨e, h⟩) := by
    unfold Moment.stream?
    rw [hSame]
    exact hCalm
  cases hSettled with
  | nothing => cases hFailed
  | acknowledged => cases hFailed
  | unacknowledged b found =>
      cases hFailed
      apply FailedWith.commit
      simp [Moment.stream?, Engine.mark, Statuses.mark]
  | lost => cases hFailed
  | halted n consecutive =>
      cases hFailed
      apply FailedWith.batch n _ rfl
      apply hAside
      simp [Engine.mark, Engine.noteFailure, Statuses.mark,
        Component.name]
  | unsent n backoff offset found =>
      cases hFailed
      apply FailedWith.rewind
      apply hAside
      simp [Engine.failing, Engine.awaitingRedelivery,
        Engine.mark, Engine.noteFailure, Statuses.mark,
        Component.name]
  | untracked => cases hFailed
  | waited n backoff offset offsets a =>
      cases a <;> cases hFailed

theorem Worked.failedWith
    (hWorked : Worked p w m r m')
    (hReady : m.Ready)
    (hFailed : r = .error (.failed cause)) :
    FailedWith cause m'.stream? m'.history := by
  cases hWorked with
  | settled elapsed hTicked hAnswer hSettled =>
      exact hSettled.failedWith hReady hFailed
  | cut => cases hFailed

/- A move that an error stops shows it, but not that of a rewind. -/
theorem Move.failedWith
    (hMove : Move m r m')
    (hReady : m.Ready)
    (hFailed : r = .error (.failed cause)) :
    FailedWith cause m'.stream? m'.history := by
  cases hMove with
  | troubled found backoff a => cases a <;> cases hFailed
  | broken found backoff =>
      cases hFailed
      apply FailedWith.poll
      simp [Moment.stream?, Engine.mark, Statuses.mark]
  | @delivered f w m₁ m' r hReadied hRouted hWorked =>
      have hTaking : (m.engine.taking f).health.isReady = true :=
        Health.isReady_mark .kafka hReady rfl
      exact hWorked.failedWith (hReadied.ready hTaking) hFailed
  | ticked hWorker hWorked =>
      exact hWorked.failedWith hReady hFailed
  | _ => cases hFailed

/- So does a loop. -/
theorem Reaches.failedWith
    (hReaches : Reaches start (.after r) m)
    (hStart : start.Ready) :
    ∀ cause, r = .error (.failed cause) →
      FailedWith cause m.stream? m.history :=
  hReaches.loop_induction
    (motive := fun r m =>
      ∀ cause, r = .error (.failed cause) →
        FailedWith cause m.stream? m.history)
    (by simp)
    fun _ _ _ hBefore _ hMove cause hFailed =>
      hMove.failedWith
        (hBefore.ready (r := .ok ()) hStart (by simp)) hFailed

------------------------------------------------------------
-- The Final Flush
------------------------------------------------------------

/- A final flush counts no error of the stream. -/
theorem FlushedEach.errors_eq
    {ps : List PartitionKey}
    (hFlushed : FlushedEach ps m r m') :
    m'.engine.metrics.errors = m.engine.metrics.errors :=
  hFlushed.keeps
    (R := fun m m' =>
      m'.engine.metrics.errors = m.engine.metrics.errors)
    (fun _ => rfl)
    (fun hFirst hThen => hThen.trans hFirst)
    fun hOut => by cases hOut <;> rfl

/-
  A run that was stopped and then closed: its final flush
  counts no error of the stream, and polls nothing.
-/
structure Unnoticed (m₀ m : Moment) : Prop where
  errors_eq :
    m.engine.metrics.errors = m₀.engine.metrics.errors
  loop_eq : m.history.beforeClosing = m₀.history
  polls_eq : m.history.failedPolls = m₀.history.failedPolls

theorem FlushedAll.unnoticed
    (hFlushed : FlushedAll m r m') :
    Unnoticed m m' := by
  rcases hFlushed with ⟨ps, -, hEach⟩
  have hCalls :
      Grows Event.IsCall (.closing :: m.history) m'.history :=
    hEach.grows (fun _ => trivial) (fun _ _ => trivial)
      fun _ _ => trivial
  refine ⟨hEach.errors_eq, ?_, ?_⟩
  · rw [beforeClosing, behindClosing?_eq hCalls]
    rfl
  · exact (hEach.grows (fun _ => rfl) (fun _ _ => rfl)
      fun _ _ => rfl).countP_eq

theorem Ended.unnoticed
    {ending : Engine.RunEnd}
    (hEnded : Ended r m ending m')
    (hClosed : ending.IsClosed) :
    Unnoticed m m' ∧ ∀ fault, r ≠ .error (.fault fault) := by
  cases hEnded with
  | unfinished => cases hClosed
  | faulted => cases hClosed
  | closed hWhy hFlushed hGauged =>
      have hUnnoticed := hFlushed.unnoticed
      refine ⟨{ hUnnoticed with errors_eq := ?_ }, ?_⟩
      · exact hGauged.errors_eq.trans hUnnoticed.errors_eq
      · rintro fault ⟨⟩
        exact hWhy fault rfl
  | overflowed => cases hClosed

------------------------------------------------------------
-- Runs
------------------------------------------------------------

/-
  Errors that miss those of rewinds, and those of commits in
  the final flush, are all there were if there was neither.
-/
theorem Moment.Notes.streamErrors_iff
    (hNotes : m.Notes m.history.beforeClosing.failedCommits)
    (hFits : m.history.streamErrors < UInt64.size) :
    m.engine.metrics.errors .kafka =
        UInt64.ofNat m.history.streamErrors ↔
      m.history.failedRewinds = 0 ∧
        m.history.beforeClosing.failedCommits =
          m.history.failedCommits := by
  have hEarlier :
      m.history.beforeClosing.failedCommits ≤
        m.history.failedCommits :=
    m.history.countP_beforeClosing_le Event.failsCommit
  have hSum :
      m.history.streamErrors =
        m.history.failedPolls + m.history.failedCommits +
          m.history.failedRewinds :=
    rfl
  rw [hNotes]
  constructor
  · intro hSame
    have hCounts := Word.eq_of_ofNat_eq ⟨by omega, hFits⟩ hSame
    omega
  · rintro ⟨hRewinds, hCommits⟩
    rw [hSum, hRewinds, hCommits]
    rfl

/-
  What a run notices of the errors of its stream.  It counts
  all of them up to every poll.  At its end it has counted all
  if no rewind failed, and no commit of the final flush, and
  not otherwise.  An error of the stream that ends it is shown,
  unless it is that of a rewind.
-/
structure NoticesErrors
    {σ : Type}
    (run : Engine.Run (σ × History)) : Prop where
  counted :
    ∀ t ∈ run.atPolls,
      t.engine.metrics.errors .kafka =
        UInt64.ofNat t.world.2.streamErrors
  calm : ∀ t ∈ run.atPolls, ¬ Unhealthy t.moment.stream?
  left :
    run.ending.IsClosed →
      run.last.engine.metrics.errors .kafka =
        UInt64.ofNat
          (run.last.world.2.failedPolls + run.loop.failedCommits)
  missed :
    run.ending.IsClosed →
      run.last.world.2.streamErrors < UInt64.size →
      (run.last.engine.metrics.errors .kafka =
          UInt64.ofNat run.last.world.2.streamErrors ↔
        run.last.world.2.failedRewinds = 0 ∧
          run.loop.failedCommits =
            run.last.world.2.failedCommits)
  shown :
    ∀ cause,
      run.ending = .failed cause →
        FailedWith cause run.last.moment.stream? run.loop

/- Before a poll, no rewind has failed. -/
theorem Reaches.failedRewinds_eq
    (hReaches : Reaches start (.after (.ok ())) m)
    (hStart : start.history = []) :
    m.history.failedRewinds = 0 := by
  have hTold := hReaches.told.grows
  rw [hStart] at hTold
  rcases hTold with ⟨es, hEvents, hGoesOn⟩
  have hNone :
      Grows (fun e => e.failsRewind = false) [] m.history :=
    ⟨es, hEvents,
      fun e hMember => (hGoesOn e hMember).failsRewind_eq⟩
  exact hNone.countP_eq

/- A run that is closed has counted what its loop did. -/
theorem Unnoticed.notes
    {m₀ : Moment}
    (hUnnoticed : Unnoticed m₀ m)
    (hNotes : m₀.NotesAll) :
    m.Notes m.history.beforeClosing.failedCommits := by
  unfold Moment.Notes
  rw [hUnnoticed.errors_eq, hUnnoticed.polls_eq,
    hUnnoticed.loop_eq]
  exact hNotes

/- Every run notices the errors of its stream. -/
theorem streamErrors_of_run
    {σ : Type}
    (world : World σ)
    (settings : Settings)
    (steps : Nat)
    (s : σ) :
    NoticesErrors
      (Engine.run world.recorded steps (.fresh settings)
        (s, [])) := by
  have hReady := Engine.ready_started settings
  have hStart :
      Moment.NotesAll ⟨(Engine.fresh settings).started, []⟩ :=
    rfl
  have hPolls :=
    (run_reaches world steps (.fresh settings) s []).1
  rcases ended_run world steps (.fresh settings) s [] with
    ⟨r, t, hSteps, hEnded⟩
  have hReaches := reaches_stepping world steps hSteps
  have hLast
      (hClosed :
        (Engine.run world.recorded steps (.fresh settings)
          (s, [])).ending.IsClosed) :=
    (hEnded.unnoticed hClosed).1.notes
      (hReaches.notesAll hStart (hEnded.unnoticed hClosed).2)
  refine ⟨?_, ?_, hLast, ?_, ?_⟩
  · intro u hPoll
    have hLoop :
        Reaches ⟨(Engine.fresh settings).started, []⟩
          (.after (.ok ())) u.moment :=
      hPolls u hPoll
    have hRewinds : u.world.2.failedRewinds = 0 :=
      hLoop.failedRewinds_eq rfl
    rw [streamErrors, hRewinds]
    exact hLoop.notesAll hStart (by simp)
  · intro u hPoll
    have hLoop :
        Reaches ⟨(Engine.fresh settings).started, []⟩
          (.after (.ok ())) u.moment :=
      hPolls u hPoll
    exact (hLoop.ready hReady (by simp)).not_unhealthy
  · intro hClosed hFits
    exact (hLast hClosed).streamErrors_iff hFits
  · intro cause hFailed
    have hStopped :=
      (hEnded.eq_ofStop_iff (.failed cause) (by simp)).mp hFailed
    have hClosed :
        (Engine.run world.recorded steps (.fresh settings)
          (s, [])).ending.IsClosed := by
      rw [hFailed]
      trivial
    have hShown :=
      congrArg (Table.get? · Component.kafka.name)
        hEnded.components_eq
    have hLoop := (hEnded.unnoticed hClosed).1.loop_eq
    have hEnd := hReaches.failedWith hReady cause hStopped.1
    rw [← hLoop] at hEnd
    unfold Moment.stream? Health.status? at hEnd ⊢
    rw [hShown]
    exact hEnd

/- The error of a stream that takes no offsets. -/
def uncommittedError : Error :=
  .kafka (.offsetCommit "no coordinator")

/- The world of a script, in which no offset can be committed. -/
def uncommittedWorld : World Script :=
  { Script.world with
    commitThrough := fun _ s =>
      (.done (.error uncommittedError), s) }

/- A poll fails and is tried again, and then a batch is full. -/
def Script.unsteady : Script where
  polls :=
    [.failed (.kafka (.consumerGroup "rebalancing"))
        (.ofMillis 100) true,
      .fragment (fragment 3), .fragment (fragment 4)]
  uploads := []
  assigned := [partition]

@[irreducible] def uncommittedRun : Engine.Run (Script × History) :=
  Engine.run uncommittedWorld.recorded 9 (.fresh Script.settings)
    (Script.unsteady, [])

theorem streamErrors_of_uncommittedRun :
    uncommittedRun.ending = .failed uncommittedError ∧
      uncommittedRun.last.world.2.streamErrors = 2 ∧
      uncommittedRun.last.engine.metrics.errors .kafka =
        UInt64.ofNat
          uncommittedRun.last.world.2.streamErrors ∧
      uncommittedRun.last.moment.stream? =
        some (Engine.commitTrouble uncommittedError) ∧
      FailedWith uncommittedError
        uncommittedRun.last.moment.stream?
        uncommittedRun.loop := by
  have hEnding :
      uncommittedRun.ending = .failed uncommittedError := by
    decide +kernel
  have hErrors :
      uncommittedRun.last.world.2.streamErrors = 2 := by
    decide +kernel
  have hClosed : uncommittedRun.ending.IsClosed := by
    rw [hEnding]
    trivial
  have hFits :
      uncommittedRun.last.world.2.streamErrors <
        UInt64.size := by
    rw [hErrors]
    decide
  have hNotices : NoticesErrors uncommittedRun := by
    rw [uncommittedRun]
    exact streamErrors_of_run uncommittedWorld Script.settings 9
      Script.unsteady
  refine ⟨hEnding, hErrors, ?_, by decide +kernel,
    hNotices.shown _ hEnding⟩
  apply (hNotices.missed hClosed hFits).mpr
  constructor <;> decide +kernel

/- The error of a stream that cannot be sent back. -/
def strandedError : Error :=
  .kafka (.seek ⟨Script.partition, 3⟩ "no leader")

/- The world of a script, in which no partition can be sent back. -/
def strandedWorld : World Script :=
  { Script.world with
    rewind := fun _ _ s => (.error strandedError, s) }

@[irreducible] def strandedRun : Engine.Run (Script × History) :=
  Engine.run strandedWorld.recorded 9 (.fresh Script.settings)
    (Script.redelivered, [])

/- The only error of the stream ends the run, not counted or shown. -/
theorem not_counted_of_strandedRun :
    strandedRun.ending = .failed strandedError ∧
      strandedRun.last.world.2.streamErrors = 1 ∧
      strandedRun.last.world.2.failedRewinds = 1 ∧
      strandedRun.last.engine.metrics.errors .kafka = 0 ∧
      strandedRun.last.engine.metrics.errors .kafka ≠
        UInt64.ofNat strandedRun.last.world.2.streamErrors ∧
      ¬ Unhealthy strandedRun.last.moment.stream? := by
  have hShown :
      strandedRun.last.moment.stream? = some .healthy := by
    decide +kernel
  refine ⟨by decide +kernel, by decide +kernel,
    by decide +kernel, by decide +kernel, by decide +kernel, ?_⟩
  rintro ⟨why, hUnhealthy⟩
  cases hShown.symm.trans hUnhealthy

end FragmentSink
