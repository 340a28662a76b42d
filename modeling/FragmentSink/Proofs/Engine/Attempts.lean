import FragmentSink.Proofs.Engine.Balance
import FragmentSink.Proofs.Engine.Failures
import FragmentSink.Proofs.Engine.Finish
import Mathlib

/-
  Which commit attempts the metrics of an engine record.

  An attempt to commit a batch ends with the upload that fails,
  or with the offset commit that follows a durable batch.  A
  running engine records all of them.  Two kinds go unrecorded:
  batches that were durable but not acknowledged, and those
  that fail in the final flush.

  Main declarations:
    * `History.attempts`
    * `Metrics.Records`
    * `Reaches.records`
    * `attempts_of_run`
-/

namespace FragmentSink

open History

variable {p : PartitionKey}
variable {w w' : Worker}
variable {h h' : History}
variable {m m₁ m' start : Moment}
variable {r : Except Stop Unit}
variable {phase : Phase}
variable {answer : FlushEnd}

------------------------------------------------------------
-- Attempts
------------------------------------------------------------

/- An upload fails, and with it the commit of its batch. -/
def Event.fails : Event → Bool
| .upload _ ending => ending.Fails
| _ => false

/- A batch is durable, and its offset is to be committed. -/
def Event.stores : Event → Bool
| .commit _ _ => true
| _ => false

/- The offset of a durable batch is committed. -/
def Event.acknowledges : Event → Bool
| .commit _ (.done (.ok _)) => true
| _ => false

namespace History

/- The batches that failed. -/
def failed (h : History) : Nat :=
  h.countP Event.fails

/- The batches that became durable. -/
def stored (h : History) : Nat :=
  h.countP Event.stores

/- The durable batches whose offsets were committed. -/
def acknowledged (h : History) : Nat :=
  h.countP Event.acknowledges

/- The attempts to commit a batch that came to an end. -/
def attempts (h : History) : Nat :=
  h.failed + h.stored

@[simp] theorem acknowledged_commit
    (t : OffsetToken)
    (a : Unit) :
    acknowledged (.commit t (.done (.ok a)) :: h) =
      h.acknowledged + 1 :=
  List.countP_cons_of_pos rfl

@[simp] theorem stored_commit
    (t : OffsetToken)
    (a : Awaited (Except Error Unit)) :
    stored (.commit t a :: h) = h.stored + 1 :=
  List.countP_cons_of_pos rfl

theorem acknowledged_le_stored (h : History) :
    h.acknowledged ≤ h.stored := by
  apply List.countP_mono_left
  intro e _ hAcknowledges
  cases e with
  | commit => rfl
  | _ => cases hAcknowledges

/- What happened before the final flush is the oldest of all. -/
theorem beforeClosing_suffix (h : History) :
    h.beforeClosing <:+ h := by
  have hBehind
      (h h₀ : History)
      (hClosing : behindClosing? h = some h₀) :
      h₀ <:+ h := by
    induction h with
    | nil => cases hClosing
    | cons e h ih =>
        cases e with
        | closing =>
            cases hClosing
            exact List.suffix_cons _ _
        | _ => exact (ih hClosing).trans (List.suffix_cons _ _)
  unfold beforeClosing
  cases hClosing : behindClosing? h with
  | none => exact List.suffix_rfl
  | some h₀ => exact hBehind h h₀ hClosing

/- So it has no more events of a kind. -/
theorem countP_beforeClosing_le
    (test : Event → Bool)
    (h : History) :
    h.beforeClosing.countP test ≤ h.countP test :=
  h.beforeClosing_suffix.sublist.countP_le

end History

/- Events that fail a test leave the number of those that pass it. -/
theorem Grows.countP_eq
    {test : Event → Bool}
    (hGrows : Grows (fun e => test e = false) h h') :
    h'.countP test = h.countP test :=
  hGrows.induction
    (motive := fun g => g.countP test = h.countP test) rfl
    fun e g hEvent hEq => by
      rw [List.countP_cons_of_neg (by simp [hEvent]), hEq]

/- Numbers that fit in words are told apart by them. -/
theorem Word.eq_of_ofNat_eq
    {a b : Nat}
    (hFits : a < UInt64.size ∧ b < UInt64.size)
    (hSame : UInt64.ofNat a = UInt64.ofNat b) :
    a = b := by
  rw [← UInt64.toNat_ofNat_of_lt' hFits.1, hSame,
    UInt64.toNat_ofNat_of_lt' hFits.2]

------------------------------------------------------------
-- Records
------------------------------------------------------------

/- The metrics record so many attempts, and so many that failed. -/
structure Metrics.Records
    (metrics : Metrics)
    (ended failed : Nat) : Prop where
  durations : metrics.durations.count = UInt64.ofNat ended
  failures : metrics.commitFailures = UInt64.ofNat failed

namespace Metrics

variable {metrics metrics' : Metrics}
variable {ended failed : Nat}

theorem Records.of_eq
    (hRecords : metrics.Records ended failed)
    (hDurations : metrics'.durations = metrics.durations)
    (hFailures :
      metrics'.commitFailures = metrics.commitFailures) :
    metrics'.Records ended failed := by
  constructor
  · rw [hDurations]
    exact hRecords.durations
  · rw [hFailures]
    exact hRecords.failures

theorem Records.recordFlush
    (hRecords : metrics.Records ended failed)
    (reason : FlushReason)
    (fragments bytes : UInt64)
    (duration : Span) :
    (metrics.recordFlush reason fragments bytes duration).Records
      (ended + 1) failed := by
  refine ⟨?_, hRecords.failures⟩
  simp [Metrics.recordFlush, DurationHistogram.observe,
    hRecords.durations, UInt64.ofNat_add]

theorem Records.recordCommitFailure
    (hRecords : metrics.Records ended failed)
    (elapsed : Span) :
    (metrics.recordCommitFailure elapsed).Records (ended + 1)
      (failed + 1) := by
  constructor
  · simp [Metrics.recordCommitFailure, DurationHistogram.observe,
      hRecords.durations, UInt64.ofNat_add]
  · simp [Metrics.recordCommitFailure, hRecords.failures,
      UInt64.ofNat_add]

/- Numbers that fit in words are all that can be recorded. -/
theorem Records.unique
    {ended' failed' : Nat}
    (hRecords : metrics.Records ended failed)
    (hRecords' : metrics.Records ended' failed')
    (hEnded : ended < UInt64.size ∧ ended' < UInt64.size)
    (hFailed : failed < UInt64.size ∧ failed' < UInt64.size) :
    ended = ended' ∧ failed = failed' := by
  exact
    ⟨Word.eq_of_ofNat_eq hEnded
        (hRecords.durations.symm.trans hRecords'.durations),
      Word.eq_of_ofNat_eq hFailed
        (hRecords.failures.symm.trans hRecords'.failures)⟩

/-
  Metrics that miss what was not acknowledged, and what failed
  in the final flush, record all attempts if there was neither.
-/
theorem Records.attempts_iff
    (hRecords :
      metrics.Records
        (h.acknowledged + h.beforeClosing.failed)
        h.beforeClosing.failed)
    (hFits : h.attempts < UInt64.size) :
    metrics.Records h.attempts h.failed ↔
      h.acknowledged = h.stored ∧
        h.beforeClosing.failed = h.failed := by
  have hFewer := h.acknowledged_le_stored
  have hEarlier : h.beforeClosing.failed ≤ h.failed :=
    h.countP_beforeClosing_le Event.fails
  have hSum : h.attempts = h.failed + h.stored := rfl
  constructor
  · intro hAll
    have hSame :=
      hRecords.unique hAll ⟨by omega, hFits⟩
        ⟨by omega, by omega⟩
    omega
  · rintro ⟨hAcknowledged, hFailed⟩
    rw [hAcknowledged, hFailed, Nat.add_comm] at hRecords
    exact hRecords

end Metrics

/- Setting the gauges records nothing. -/
theorem Engine.Gauged.records
    {e : Engine}
    {metrics : Metrics}
    {ended failed : Nat}
    (hGauged : e.Gauged metrics)
    (hRecords : e.metrics.Records ended failed) :
    metrics.Records ended failed := by
  cases hGauged with
  | set => exact hRecords.of_eq rfl rfl

------------------------------------------------------------
-- Flushes
------------------------------------------------------------

/- The failed batches that a flush ended with. -/
def FlushEnd.failures : FlushEnd → Nat
| .failed => 1
| _ => 0

theorem Uploaded.failed_eq
    {batch : List Fragment}
    {ending : CommitEnd}
    (hUploaded : Uploaded batch h ending h') :
    h'.failed =
      h.failed + if ending = .failed then 1 else 0 := by
  have hRow (fs : List Fragment) :
      (storedRow fs ++ h : History).failed = h.failed :=
    (Grows.storedRow h fun _ _ => rfl).countP_eq
  cases hUploaded with
  | durable => exact hRow _
  | failed before f after _ bad hBad =>
      have hFails : Event.fails (.upload f bad) = true :=
        decide_eq_true hBad
      rw [History.failed, List.countP_cons_of_pos hFails]
      exact congrArg (· + 1) (hRow before)
  | dropped before => exact hRow before

theorem Worker.Flushed.failed_eq
    {reason : FlushReason}
    (hFlushed : w.Flushed reason h answer w' h') :
    h'.failed = h.failed + answer.failures := by
  cases hFlushed with
  | empty => rfl
  | durable first rest =>
      exact (Uploaded.durable (first :: rest) h).failed_eq
  | failed first rest uploads now hPending hUploaded =>
      exact hUploaded.failed_eq
  | dropped first rest uploads hPending hUploaded =>
      exact hUploaded.failed_eq

theorem Worker.Ticked.failed_eq
    (hTicked : w.Ticked h answer w' h') :
    h'.failed = h.failed + answer.failures := by
  cases hTicked with
  | idle => rfl
  | ready now reason hReason hFlushed => exact hFlushed.failed_eq

/- A flush commits no offset. -/
theorem Worker.Flushed.commits_eq
    {reason : FlushReason}
    (hFlushed : w.Flushed reason h answer w' h') :
    h'.stored = h.stored ∧ h'.acknowledged = h.acknowledged :=
  ⟨(hFlushed.grows (fun _ => rfl) fun _ _ _ => rfl).countP_eq,
    (hFlushed.grows (fun _ => rfl) fun _ _ _ => rfl).countP_eq⟩

theorem Worker.Ticked.commits_eq
    (hTicked : w.Ticked h answer w' h') :
    h'.stored = h.stored ∧ h'.acknowledged = h.acknowledged :=
  ⟨(hTicked.grows (fun _ => rfl) fun _ _ _ => rfl).countP_eq,
    (hTicked.grows (fun _ => rfl) fun _ _ _ => rfl).countP_eq⟩

------------------------------------------------------------
-- Moves
------------------------------------------------------------

/-
  A moment whose metrics record the acknowledged batches and
  so many failed ones.
-/
def Moment.Records (m : Moment) (failed : Nat) : Prop :=
  m.engine.metrics.Records (m.history.acknowledged + failed) failed

/- A moment whose metrics record every attempt. -/
structure Moment.RecordsAll (m : Moment) : Prop where
  records : m.Records m.history.failed
  acknowledged : m.history.acknowledged = m.history.stored

section Moments

variable {failed : Nat}

theorem Moment.Records.of_eq
    (hRecords : m.Records failed)
    (hMetrics :
      m'.engine.metrics.durations = m.engine.metrics.durations ∧
        m'.engine.metrics.commitFailures =
          m.engine.metrics.commitFailures)
    (hAcknowledged :
      m'.history.acknowledged = m.history.acknowledged) :
    m'.Records failed := by
  rw [Records, hAcknowledged]
  exact Metrics.Records.of_eq hRecords hMetrics.1 hMetrics.2

/- A batch that is acknowledged is recorded. -/
theorem Moment.Records.acknowledged
    {b : CommittedBatch}
    (hRecords : m.Records failed) :
    Records
      ⟨m.engine.acknowledged b,
        .commit b.last (.done (.ok ())) :: m.history⟩
      failed := by
  have hFlushed :=
    Metrics.Records.recordFlush hRecords b.reason b.fragments
      b.bytes b.duration
  rw [Nat.add_right_comm, ← History.acknowledged_commit b.last ()]
    at hFlushed
  exact hFlushed

/- So is one that fails while the engine runs. -/
theorem Moment.Records.noteFailure
    (hRecords : m.Records failed)
    (p : PartitionKey)
    (elapsed : Span) :
    Records ⟨m.engine.noteFailure p elapsed, m.history⟩
      (failed + 1) :=
  Metrics.Records.recordCommitFailure hRecords elapsed

/-
  Settling an outcome records a failed batch, and stops the
  engine where a durable one is not acknowledged.
-/
theorem Settled.records
    {elapsed : Span}
    (hSettled : Settled p elapsed m answer r m')
    (hRecords : m.Records failed)
    (hAll : m.history.acknowledged = m.history.stored) :
    m'.Records (failed + answer.failures) ∧
      m'.history.failed = m.history.failed ∧
      (r = .ok () →
        m'.history.acknowledged = m'.history.stored) := by
  have hFailed := hRecords.noteFailure p elapsed
  cases hSettled with
  | nothing => exact ⟨hRecords, rfl, fun _ => hAll⟩
  | acknowledged b =>
      refine ⟨?_, rfl, fun _ => ?_⟩
      · have hMetrics :=
          Engine.metrics_recovered (m.engine.acknowledged b) p
        exact (hRecords.acknowledged (b := b)).of_eq
          ⟨congrArg (·.durations) hMetrics,
            congrArg (·.commitFailures) hMetrics⟩ rfl
      · rw [History.acknowledged_commit, History.stored_commit,
          hAll]
  | unacknowledged =>
      exact ⟨hRecords.of_eq ⟨rfl, rfl⟩ rfl, rfl, nofun⟩
  | lost => exact ⟨hRecords.of_eq ⟨rfl, rfl⟩ rfl, rfl, nofun⟩
  | halted => exact ⟨hFailed.of_eq ⟨rfl, rfl⟩ rfl, rfl, nofun⟩
  | unsent => exact ⟨hFailed.of_eq ⟨rfl, rfl⟩ rfl, rfl, nofun⟩
  | untracked => exact ⟨hFailed.of_eq ⟨rfl, rfl⟩ rfl, rfl, nofun⟩
  | waited =>
      exact ⟨hFailed.of_eq ⟨rfl, rfl⟩ rfl, rfl, fun _ => hAll⟩

end Moments

/-
  What the metrics record in a phase of a run.  In the final
  flush they miss the batches that fail from there on.
-/
def Phase.Records : Phase → Moment → Prop
| .running, m => m.RecordsAll
| .stopped why, m =>
    (∀ fault, why ≠ .fault fault) → m.Records m.history.failed
| .flushing _, m =>
    ∃ h₀, behindClosing? m.history = some h₀ ∧
      m.Records h₀.failed
| .flushed _, m =>
    ∃ h₀, behindClosing? m.history = some h₀ ∧
      m.Records h₀.failed

theorem Moment.RecordsAll.after
    (hRecords : m.Records m.history.failed)
    (hAll :
      r = .ok () → m.history.acknowledged = m.history.stored) :
    (Phase.after r).Records m := by
  cases r with
  | ok => exact ⟨hRecords, hAll rfl⟩
  | error => exact fun _ => hRecords

theorem Worked.records
    (hWorked : Worked p w m r m')
    (hRecords : m.RecordsAll) :
    (Phase.after r).Records m' := by
  cases hWorked with
  | @settled answer w' h' r m' elapsed hTicked hAnswer hSettled =>
      have hFailed := hTicked.failed_eq
      rcases hTicked.commits_eq with ⟨hStored, hAcknowledged⟩
      have hTicks :
          Moment.Records ⟨m.engine.putWorker p w', h'⟩
            m.history.failed :=
        hRecords.records.of_eq ⟨rfl, rfl⟩ hAcknowledged
      have hBefore : h'.acknowledged = h'.stored := by
        rw [hAcknowledged, hStored]
        exact hRecords.acknowledged
      rcases hSettled.records hTicks hBefore with
        ⟨hAfter, hSame, hAll⟩
      apply Moment.RecordsAll.after ?_ hAll
      rw [hSame, hFailed]
      exact hAfter
  | cut hTicked =>
      have hFailed := hTicked.failed_eq
      rcases hTicked.commits_eq with ⟨-, hAcknowledged⟩
      intro _
      rw [hFailed]
      exact hRecords.records.of_eq ⟨rfl, rfl⟩ hAcknowledged

theorem Readied.records
    (hReadied : Readied p m w m₁)
    (hRecords : m.RecordsAll) :
    m₁.RecordsAll := by
  cases hReadied with
  | kept => exact hRecords
  | opened =>
      exact ⟨hRecords.records.of_eq ⟨rfl, rfl⟩ rfl,
        hRecords.acknowledged⟩

/- A move that is no fault of the gauges records what it attempts. -/
theorem Move.records
    (hMove : Move m r m')
    (hRecords : m.RecordsAll) :
    (Phase.after r).Records m' := by
  have hSame
      {r : Except Stop Unit}
      {m' : Moment}
      (hMetrics :
        m'.engine.metrics.durations =
            m.engine.metrics.durations ∧
          m'.engine.metrics.commitFailures =
            m.engine.metrics.commitFailures)
      (hHistory :
        m'.history.failed = m.history.failed ∧
          m'.history.acknowledged = m.history.acknowledged ∧
          m'.history.stored = m.history.stored) :
      (Phase.after r).Records m' := by
    rcases hHistory with ⟨hFailed, hAcknowledged, hStored⟩
    apply Moment.RecordsAll.after
    · rw [hFailed]
      exact hRecords.records.of_eq hMetrics hAcknowledged
    · rw [hAcknowledged, hStored]
      exact fun _ => hRecords.acknowledged
  cases hMove with
  | unpolled => exact hSame ⟨rfl, rfl⟩ ⟨rfl, rfl, rfl⟩
  | quiet => exact hSame ⟨rfl, rfl⟩ ⟨rfl, rfl, rfl⟩
  | troubled => exact hSame ⟨rfl, rfl⟩ ⟨rfl, rfl, rfl⟩
  | broken => exact hSame ⟨rfl, rfl⟩ ⟨rfl, rfl, rfl⟩
  | @delivered f _ _ _ _ hReadied hRouted hWorked =>
      have hTaken :
          Moment.RecordsAll
            ⟨m.engine.taking f,
              .poll (.done (.fragment f)) :: m.history⟩ :=
        ⟨hRecords.records.of_eq ⟨rfl, rfl⟩ rfl,
          hRecords.acknowledged⟩
      exact hWorked.records (hReadied.records hTaken)
  | misrouted => exact fun hWhy => absurd rfl (hWhy _)
  | released => exact hSame ⟨rfl, rfl⟩ ⟨rfl, rfl, rfl⟩
  | unassigned => exact hSame ⟨rfl, rfl⟩ ⟨rfl, rfl, rfl⟩
  | ticked hWorker hWorked => exact hWorked.records hRecords
  | gauged metrics hGauged =>
      exact ⟨hGauged.records hRecords.records,
        hRecords.acknowledged⟩
  | overflowed => exact fun hWhy => absurd rfl (hWhy _)

/- The final flush of a partition records what is acknowledged, and nothing else. -/
theorem FlushedOut.records
    {failed : Nat}
    (hOut : FlushedOut p m r m')
    (hRecords : m.Records failed) :
    m'.Records failed := by
  have hFlush
      {w w' : Worker}
      {answer : FlushEnd}
      {h' : History}
      (hFlushed : w.Flushed .shutdown m.history answer w' h') :
      Moment.Records ⟨m.engine.putWorker p w', h'⟩ failed :=
    hRecords.of_eq ⟨rfl, rfl⟩ hFlushed.commits_eq.2
  cases hOut with
  | unstored hWorker hFlushed => exact hFlush hFlushed
  | cut hWorker hFlushed => exact hFlush hFlushed
  | acknowledged hWorker hFlushed =>
      exact (hFlush hFlushed).acknowledged
  | unacknowledged cause hWorker hFlushed =>
      exact (hFlush hFlushed).of_eq ⟨rfl, rfl⟩ rfl
  | lost hWorker hFlushed =>
      exact (hFlush hFlushed).of_eq ⟨rfl, rfl⟩ rfl

/- Every moment of a run has the records of its phase. -/
theorem Reaches.records
    (hReaches : Reaches start phase m)
    (hStart : start.RecordsAll) :
    phase.Records m := by
  have hFlush
      {m m' : Moment}
      {r : Except Stop Unit}
      (hMove : FlushMove m r m')
      (hRecords :
        ∃ h₀, behindClosing? m.history = some h₀ ∧
          m.Records h₀.failed) :
      ∃ h₀, behindClosing? m'.history = some h₀ ∧
        m'.Records h₀.failed := by
    rcases hRecords with ⟨h₀, hClosing, hBefore⟩
    refine ⟨h₀, (behindClosing?_eq hMove.calls).trans hClosing, ?_⟩
    rcases hMove with ⟨p, hOut⟩
    exact hOut.records hBefore
  induction hReaches with
  | start => exact hStart
  | move _ hMove ih => exact hMove.records ih
  | @close m why _ hWhy ih =>
      exact ⟨m.history, rfl, (ih hWhy).of_eq ⟨rfl, rfl⟩ rfl⟩
  | flush _ hMove ih => exact hFlush hMove ih
  | cut _ hMove ih => exact hFlush hMove ih
  | flushed _ ih => exact ih

------------------------------------------------------------
-- Runs
------------------------------------------------------------

/- A run that is closed has recorded what was acknowledged, and what failed before. -/
theorem Concludes.records
    {ending : Engine.RunEnd}
    (hConcludes : Concludes start ending m)
    (hStart : start.RecordsAll)
    (hClosed : ending.IsClosed) :
    m.Records m.history.beforeClosing.failed := by
  cases hConcludes with
  | unfinished => cases hClosed
  | faulted => cases hClosed
  | closed metrics hReaches hGauged =>
      rcases hReaches.records hStart with ⟨h₀, hClosing, hRecords⟩
      rw [beforeClosing, hClosing]
      exact hGauged.records hRecords
  | overflowed => cases hClosed

/-
  At every poll, all attempts to commit a batch are recorded.
  At the end of a run they are if every durable batch was
  acknowledged and none failed in the final flush, and not
  otherwise.
-/
theorem attempts_of_run
    {σ : Type}
    (world : World σ)
    (settings : Settings)
    (steps : Nat)
    (s : σ)
    (run : Engine.Run (σ × History))
    (hRun :
      run =
        Engine.run world.recorded steps (.fresh settings) (s, [])) :
    (∀ t ∈ run.atPolls,
        t.engine.metrics.Records t.world.2.attempts
          t.world.2.failed) ∧
      (run.ending.IsClosed →
        run.last.engine.metrics.Records
            (run.last.world.2.acknowledged +
              run.last.world.2.beforeClosing.failed)
            run.last.world.2.beforeClosing.failed ∧
          (run.last.world.2.attempts < UInt64.size →
            (run.last.engine.metrics.Records
                run.last.world.2.attempts
                run.last.world.2.failed ↔
              run.last.world.2.acknowledged =
                  run.last.world.2.stored ∧
                run.last.world.2.beforeClosing.failed =
                  run.last.world.2.failed))) := by
  subst hRun
  have hStart :
      Moment.RecordsAll
        ⟨(Engine.fresh settings).started, []⟩ :=
    ⟨⟨rfl, rfl⟩, rfl⟩
  rcases run_reaches world steps (.fresh settings) s [] with
    ⟨hPolls, hConcludes⟩
  refine ⟨?_, ?_⟩
  · intro t hPoll
    have hRunning : t.moment.RecordsAll :=
      (hPolls t hPoll).records hStart
    have hRecords := hRunning.records
    rw [Moment.Records, hRunning.acknowledged, Nat.add_comm]
      at hRecords
    exact hRecords
  · intro hClosed
    have hRecords := hConcludes.records hStart hClosed
    exact ⟨hRecords, hRecords.attempts_iff⟩

/- A batch fails and is delivered again, and one fragment is left. -/
def Script.retried : Script where
  polls := [3, 4, 3, 4, 6].map fun offset => .fragment (fragment offset)
  uploads := [.stored, .refused]
  assigned := [partition]

@[irreducible] def retriedRun : Engine.Run (Script × History) :=
  Engine.run Script.world.recorded 9 (.fresh Script.settings)
    (Script.retried, [])

theorem attempts_of_retriedRun :
    retriedRun.ending = .stopped ∧
      retriedRun.last.world.2.attempts = 3 ∧
      retriedRun.last.world.2.failed = 1 ∧
      (∀ t ∈ retriedRun.atPolls,
        t.engine.metrics.Records t.world.2.attempts
          t.world.2.failed) ∧
      retriedRun.last.engine.metrics.Records
        retriedRun.last.world.2.attempts
        retriedRun.last.world.2.failed := by
  have hStopped : retriedRun.ending = .stopped := by
    decide +kernel
  have hAttempts : retriedRun.last.world.2.attempts = 3 := by
    decide +kernel
  have hClosed : retriedRun.ending.IsClosed := by
    rw [hStopped]
    trivial
  have hFits :
      retriedRun.last.world.2.attempts < UInt64.size := by
    rw [hAttempts]
    decide
  have hRecorded :=
    attempts_of_run Script.world Script.settings 9
      Script.retried retriedRun (by rw [retriedRun])
  refine ⟨hStopped, hAttempts, by decide +kernel, hRecorded.1, ?_⟩
  apply ((hRecorded.2 hClosed).2 hFits).mpr
  constructor <;> decide +kernel

/- The only batch of the run fails in the final flush. -/
def Script.lateFailure : Script where
  polls := [.fragment (fragment 3)]
  uploads := [.refused]
  assigned := [partition]

@[irreducible] def lateFailureRun : Engine.Run (Script × History) :=
  Engine.run Script.world.recorded 9 (.fresh Script.settings)
    (Script.lateFailure, [])

/- One attempt failed, and none is recorded. -/
theorem not_records_of_lateFailureRun :
    lateFailureRun.ending = .stopped ∧
      lateFailureRun.last.world.2.attempts = 1 ∧
      lateFailureRun.last.world.2.failed = 1 ∧
      lateFailureRun.last.engine.metrics.durations.count = 0 ∧
      lateFailureRun.last.engine.metrics.commitFailures = 0 ∧
      ¬ lateFailureRun.last.engine.metrics.Records
        lateFailureRun.last.world.2.attempts
        lateFailureRun.last.world.2.failed := by
  have hAttempts : lateFailureRun.last.world.2.attempts = 1 := by
    decide +kernel
  have hCount :
      lateFailureRun.last.engine.metrics.durations.count = 0 := by
    decide +kernel
  refine ⟨by decide +kernel, hAttempts, by decide +kernel, hCount,
    by decide +kernel, ?_⟩
  intro hRecords
  have hDurations := hRecords.durations
  rw [hAttempts, hCount] at hDurations
  cases hDurations

end FragmentSink
