import FragmentSink.Proofs.Engine.Closing
import FragmentSink.Proofs.Engine.Failures
import FragmentSink.Proofs.Engine.Segments

/-
  What an engine keeps for a partition is backed by its worker.

  An engine tracks the offsets of the partitions that have a
  worker, and has budgets and committed offsets for no others.
  Every commit of a partition names the last fragment of a
  batch of that partition.

  Main declarations:
    * `CommitCall.IsOf`
    * `Backed`
    * `Move.backed`
    * `Reaches.backed`
-/

namespace FragmentSink

open History

variable {p q : PartitionKey}
variable {w w' : Worker}
variable {h h' : History}
variable {m m₁ m' : Moment}
variable {r : Except Stop Unit}
variable {answer : FlushEnd}

------------------------------------------------------------
-- What a Worker Backs
------------------------------------------------------------

/-
  A commit that names the last fragment of its batch, all of
  which is of the same partition.
-/
structure CommitCall.IsOf
    (p : PartitionKey)
    (call : CommitCall) : Prop where
  last : call.batch.getLast?.map (·.token) = some call.token
  batch : ∀ f ∈ call.batch, f.partitionKey = p

/-
  What an engine keeps for a partition is backed by a worker
  of it and by what has happened to it.
-/
structure Backed (p : PartitionKey) (m : Moment) : Prop where
  current :
    m.engine.offsets.current? p = none ↔
      m.engine.workers.get? p = none
  committed :
    ∀ offset, m.engine.offsets.committed? p = some offset →
      m.engine.workers.get? p ≠ none ∧
        ∃ call ∈ doneCalls p m.history,
          call.token.offset = offset
  failing :
    ∀ b, m.engine.failures.get? p = some b →
      m.engine.workers.get? p ≠ none ∧ 1 ≤ b.failures.toNat
  commits : ∀ call ∈ commitCalls p m.history, call.IsOf p

namespace Backed

/- Without a worker, an engine keeps nothing. -/
theorem of_none
    (hWorker : m.engine.workers.get? p = none)
    (hCurrent : m.engine.offsets.current? p = none)
    (hCommitted : m.engine.offsets.committed? p = none)
    (hFailures : m.engine.failures.get? p = none)
    (hCommits : ∀ call ∈ commitCalls p m.history, call.IsOf p) :
    Backed p m := by
  refine ⟨by simp [hWorker, hCurrent], ?_, ?_, hCommits⟩
  · simp [hCommitted]
  · simp [hFailures]

/- With a worker, it keeps a current offset and may keep the rest. -/
theorem of_worker
    (hWorker : m.engine.workers.get? p ≠ none)
    (hCurrent : m.engine.offsets.current? p ≠ none)
    (hCommitted :
      ∀ offset, m.engine.offsets.committed? p = some offset →
        ∃ call ∈ doneCalls p m.history,
          call.token.offset = offset)
    (hFailures :
      ∀ b, m.engine.failures.get? p = some b →
        1 ≤ b.failures.toNat)
    (hCommits : ∀ call ∈ commitCalls p m.history, call.IsOf p) :
    Backed p m :=
  ⟨by simp [hWorker, hCurrent],
    fun offset hOffset => ⟨hWorker, hCommitted offset hOffset⟩,
    fun b hBudget => ⟨hWorker, hFailures b hBudget⟩, hCommits⟩

/- Where nothing is kept or committed anew, what is kept stays backed. -/
theorem of_eq
    (hBacked : Backed p m)
    (hWorker :
      m'.engine.workers.get? p = m.engine.workers.get? p)
    (hCurrent :
      m'.engine.offsets.current? p = m.engine.offsets.current? p)
    (hCommitted :
      m'.engine.offsets.committed? p =
        m.engine.offsets.committed? p)
    (hFailures :
      m'.engine.failures.get? p = m.engine.failures.get? p)
    (hCalls : commitCalls p m'.history = commitCalls p m.history) :
    Backed p m' := by
  rcases hBacked with ⟨hSame, hDone, hFailing, hCommits⟩
  refine ⟨?_, ?_, ?_, ?_⟩
  · rw [hCurrent, hWorker]
    exact hSame
  · rw [hCommitted, hWorker, doneCalls, hCalls]
    exact hDone
  · rw [hFailures, hWorker]
    exact hFailing
  · rw [hCalls]
    exact hCommits

theorem apart
    (hBacked : Backed p m)
    (hApart : Apart p m m') :
    Backed p m' :=
  hBacked.of_eq hApart.worker hApart.current hApart.committed
    hApart.failures (commitCalls_grows hApart.still)

/- A worker that takes the place of another backs the same. -/
theorem putWorker
    (hBacked : Backed p m)
    (hFound : m.engine.workers.get? p ≠ none)
    (hStill : Grows (fun e => ¬ e.Steers p) m.history h') :
    Backed p ⟨m.engine.putWorker p w', h'⟩ := by
  have hCalls := commitCalls_grows hStill
  refine of_worker (by simp [Engine.putWorker])
    (fun hNone => hFound (hBacked.current.mp hNone)) ?_ ?_ ?_
  · intro offset hOffset
    rw [doneCalls, hCalls]
    exact (hBacked.committed offset hOffset).2
  · intro b hBudget
    exact (hBacked.failing b hBudget).2
  · simp only [hCalls]
    exact hBacked.commits

end Backed

------------------------------------------------------------
-- Outcomes and Moves
------------------------------------------------------------

/- A commit of a batch that was just stored is the batch's own. -/
theorem isOf_of_handsOver
    {b : CommittedBatch}
    (hHands : w.HandsOver w' h' (.committed b))
    (hKeyed : w.Keyed p)
    (a : Awaited (Except Error Unit)) :
    CommitCall.IsOf p ⟨rowBefore h', b.last, a⟩ := by
  rcases hHands with ⟨-, hRow, hLast⟩
  rw [hRow]
  exact ⟨hLast, hKeyed.pending⟩

/- One more failure makes at least one. -/
theorem one_le_countFailure (b : FailureBudget) :
    1 ≤ b.countFailure.failures.toNat := by
  rw [b.toNat_failures_countFailure, FailureBudget.mostFailures,
    UInt32.size]
  omega

/- A commit that was called is one of the partition's own. -/
theorem Backed.commit
    {t : OffsetToken}
    {a : Awaited (Except Error Unit)}
    (hBacked : Backed p m)
    (hFound : m.engine.workers.get? p ≠ none)
    (hKey : t.key = p)
    (hOwn : CommitCall.IsOf p ⟨rowBefore m.history, t, a⟩) :
    Backed p ⟨m.engine, .commit t a :: m.history⟩ := by
  have hCalls := commitCalls_commit (h := m.history) hKey a
  refine of_worker hFound
    (fun hNone => hFound (hBacked.current.mp hNone)) ?_ ?_ ?_
  · intro offset hOffset
    rcases (hBacked.committed offset hOffset).2 with
      ⟨call, hDone, hOffset⟩
    refine ⟨call, ?_, hOffset⟩
    rw [doneCalls, hCalls, List.filter_append]
    exact List.mem_append_left _ hDone
  · intro b hBudget
    exact (hBacked.failing b hBudget).2
  · rw [hCalls, List.forall_mem_append]
    exact ⟨hBacked.commits, List.forall_mem_singleton.mpr hOwn⟩

/- One that was acknowledged becomes the committed offset. -/
theorem Backed.acknowledged
    {b : CommittedBatch}
    (hBacked :
      Backed p
        ⟨m.engine, .commit b.last (.done (.ok ())) :: m.history⟩)
    (hFound : m.engine.workers.get? p ≠ none)
    (hKey : b.last.key = p) :
    Backed p
      ⟨m.engine.acknowledged b,
        .commit b.last (.done (.ok ())) :: m.history⟩ := by
  refine of_worker hFound
    (fun hNone => hFound (hBacked.current.mp hNone)) ?_ ?_
    hBacked.commits
  · intro offset hOffset
    simp only [Engine.acknowledged, OffsetTracker.committed?,
      OffsetTracker.markCommitted, Table.get?_insert, hKey,
      if_true, Option.some.injEq] at hOffset
    refine ⟨⟨rowBefore m.history, b.last, .done (.ok ())⟩, ?_,
      hOffset⟩
    rw [doneCalls, commitCalls_commit hKey, List.filter_append]
    exact List.mem_append_right _ (by simp [CommitCall.isDone])
  · intro budget hBudget
    exact (hBacked.failing budget hBudget).2

/- However an outcome is settled, what is kept stays backed. -/
theorem Settled.backed
    {elapsed : Span}
    (hSettled : Settled p elapsed m answer r m')
    (hBacked : Backed p m)
    (hFound : m.engine.workers.get? p ≠ none)
    (hKey : ∀ b, answer = .committed b → b.last.key = p)
    (hOwn :
      ∀ b, answer = .committed b →
        ∀ a, CommitCall.IsOf p ⟨rowBefore m.history, b.last, a⟩) :
    Backed p m' := by
  have hCommit
      (b : CommittedBatch)
      (hEnd : answer = .committed b)
      (a : Awaited (Except Error Unit)) :
      Backed p ⟨m.engine, .commit b.last a :: m.history⟩ :=
    hBacked.commit hFound (hKey b hEnd) (hOwn b hEnd a)
  have hFailing :
      ∀ b, (m.engine.noteFailure p elapsed).failures.get? p =
          some b →
        1 ≤ b.failures.toNat := by
    intro b hBudget
    simp only [Engine.noteFailure, Table.get?_insert, if_true,
      Option.some.injEq] at hBudget
    rw [← hBudget]
    exact one_le_countFailure _
  have hCurrent : m.engine.offsets.current? p ≠ none :=
    fun hNone => hFound (hBacked.current.mp hNone)
  have hCommitted (offset : Int64) :=
    fun hOffset => (hBacked.committed offset hOffset).2
  cases hSettled with
  | nothing => exact hBacked
  | acknowledged b =>
      have hDone :=
        (hCommit b rfl (.done (.ok ()))).acknowledged hFound
          (hKey b rfl)
      have hWorkers :
          ((m.engine.acknowledged b).recovered p).workers =
            m.engine.workers := by
        simp only [Engine.recovered]
        split <;> rfl
      have hErased :
          ((m.engine.acknowledged b).recovered p).failures.get? p =
            none := by
        simp only [Engine.recovered]
        split <;> simp [Engine.mark]
      refine .of_worker ?_ ?_ ?_ ?_ hDone.commits
      · rw [hWorkers]
        exact hFound
      · rw [Engine.offsets_recovered]
        exact hCurrent
      · rw [Engine.offsets_recovered]
        exact fun offset hOffset =>
          (hDone.committed offset hOffset).2
      · simp [hErased]
  | unacknowledged b => exact (hCommit b rfl _).of_eq rfl rfl rfl rfl rfl
  | lost b => exact hCommit b rfl _
  | halted =>
      exact .of_worker hFound hCurrent hCommitted hFailing
        hBacked.commits
  | unsent =>
      exact .of_worker hFound hCurrent hCommitted hFailing
        hBacked.commits
  | untracked =>
      exact .of_worker hFound hCurrent hCommitted hFailing
        hBacked.commits
  | waited n backoff offset offsets a hAction hOffset hOffsets =>
      rcases OffsetTracker.rewind_eq_ok hOffsets with
        ⟨last, -, rfl⟩
      refine .of_worker hFound ?_ hCommitted hFailing
        hBacked.commits
      simp [Engine.sentBack, OffsetTracker.current?]

/- So it does however a worker is worked through. -/
theorem Worked.backed
    (hWorked : Worked p w m r m')
    (hBacked : Backed p m)
    (hFound : m.engine.workers.get? p ≠ none)
    (hKeyed : w.Keyed p) :
    Backed p m' := by
  cases hWorked with
  | @settled answer _ _ _ _ elapsed hTicked hAnswer hSettled =>
      have hKey (b : CommittedBatch) :
          answer = .committed b → b.last.key = p := by
        rintro rfl
        exact hTicked.last_key hKeyed
      refine hSettled.backed (hBacked.putWorker hFound hTicked.still)
        (by simp [Engine.putWorker]) hKey ?_
      rintro b rfl
      exact isOf_of_handsOver hTicked.handsOver hKeyed
  | cut hTicked => exact hBacked.putWorker hFound hTicked.still

/- A delivered fragment finds a worker, or gets one. -/
theorem Readied.backed
    {f : Fragment}
    (hReadied :
      Readied p
        ⟨m.engine.taking f,
          .poll (.done (.fragment f)) :: m.history⟩ w m₁)
    (hBacked : Backed p m)
    (hKey : f.partitionKey = p) :
    Backed p m₁ ∧ m₁.engine.workers.get? p ≠ none := by
  have hToken : f.token.key = p := hKey
  have hCurrent :
      (m.engine.taking f).offsets.current? p ≠ none := by
    simp [Engine.taking, OffsetTracker.current?,
      OffsetTracker.updateCurrent, hToken]
  have hTaken
      {m₁ : Moment}
      (hWorker : m₁.engine.workers.get? p ≠ none)
      (hOffsets :
        m₁.engine.offsets = (m.engine.taking f).offsets)
      (hFailures : m₁.engine.failures = m.engine.failures)
      (hCalls :
        commitCalls p m₁.history = commitCalls p m.history) :
      Backed p m₁ := by
    refine .of_worker hWorker ?_ ?_ ?_ ?_
    · rw [hOffsets]
      exact hCurrent
    · rw [hOffsets, doneCalls, hCalls]
      exact fun offset hOffset => (hBacked.committed offset hOffset).2
    · rw [hFailures]
      exact fun b hBudget => (hBacked.failing b hBudget).2
    · rw [hCalls]
      exact hBacked.commits
  cases hReadied with
  | kept w hWorker =>
      have hFound :
          (m.engine.taking f).workers.get? p ≠ none := by
        simp [hWorker]
      exact ⟨hTaken hFound rfl rfl rfl, hFound⟩
  | opened now hNone =>
      have hPut (e : Engine) (w : Worker) :
          (e.putWorker p w).workers.get? p ≠ none := by
        simp [Engine.putWorker]
      exact ⟨hTaken (hPut _ _) rfl rfl rfl, hPut _ _⟩

/- A partition that is left out is forgotten as a whole. -/
theorem Backed.released
    (hBacked : Backed p m)
    (ps : List PartitionKey) :
    Backed p
      ⟨m.engine.keepOnly ps, .assigned (.ok ps) :: m.history⟩ := by
  by_cases hKept : p ∈ ps
  · rcases m.engine.offsets_keepOnly hKept with
      ⟨hCurrent, hCommitted⟩
    refine hBacked.of_eq ?_ hCurrent hCommitted ?_ rfl
    · simp [Engine.keepOnly, hKept]
    · simp [Engine.keepOnly, hKept]
  · have hOffsets :
        (m.engine.keepOnly ps).offsets.current? p = none ∧
          (m.engine.keepOnly ps).offsets.committed? p = none := by
      simp only [Engine.keepOnly,
        OffsetTracker.current?_foldl_remove,
        OffsetTracker.committed?_foldl_remove, List.mem_filter,
        Table.mem_keys_iff]
      cases hWorker : m.engine.workers.get? p with
      | some w => simp [hKept]
      | none =>
          refine ⟨by simpa using hBacked.current.mpr hWorker, ?_⟩
          cases hOffset : m.engine.offsets.committed? p with
          | none => simp
          | some offset =>
              exact absurd hWorker
                (hBacked.committed offset hOffset).1
    refine .of_none ?_ hOffsets.1 hOffsets.2 ?_ hBacked.commits
    · simp [Engine.keepOnly, hKept]
    · simp [Engine.keepOnly, hKept]

/- The moves of a partition leave it backed. -/
theorem Own.backed
    (hOwn : Own p m r m')
    (hBacked : Backed p m) :
    Backed p m' := by
  cases hOwn with
  | delivered hKey hReadied hWorker hWorked =>
      rcases hReadied.backed hBacked hKey with ⟨hReady, hFound⟩
      exact hWorked.backed hReady hFound hWorker
  | released ps => exact hBacked.released ps
  | ticked hFound hWorker hWorked =>
      exact hWorked.backed hBacked (by simp [hFound]) hWorker

theorem Move.backed
    (hMove : Move m r m')
    (hEngine : m.engine.Keyed)
    (hBacked : Backed p m) :
    Backed p m' := by
  rcases hMove.own_or_apart p hEngine with hOwn | hApart
  · exact hOwn.backed hBacked
  · exact hBacked.apart hApart

/- So does the final flush of one. -/
theorem FlushedOut.backed
    (hOut : FlushedOut p m r m')
    (hEngine : m.engine.Keyed)
    (hTop : m.history.topRow = [])
    (hBacked : Backed p m) :
    Backed p m' := by
  have hPut
      {w w' : Worker}
      {answer : FlushEnd}
      {h' : History}
      (hWorker : m.engine.workers.get? p = some w)
      (hFlushed : w.Flushed .shutdown m.history answer w' h') :
      Backed p ⟨m.engine.putWorker p w', h'⟩ :=
    hBacked.putWorker (by simp [hWorker]) hFlushed.still
  have hFound (w : Worker) :
      (m.engine.putWorker p w).workers.get? p ≠ none := by
    simp [Engine.putWorker]
  have hCommit
      {w w' : Worker}
      {h' : History}
      {b : CommittedBatch}
      (hWorker : m.engine.workers.get? p = some w)
      (hFlushed :
        w.Flushed .shutdown m.history (.committed b) w' h')
      (a : Awaited (Except Error Unit)) :
      b.last.key = p ∧
        Backed p
          ⟨m.engine.putWorker p w', .commit b.last a :: h'⟩ := by
    have hKeyed := hEngine p w hWorker
    have hKey := hFlushed.last_key hKeyed
    exact ⟨hKey,
      (hPut hWorker hFlushed).commit (hFound w') hKey
        (isOf_of_handsOver (hFlushed.handsOver hTop) hKeyed a)⟩
  cases hOut with
  | unstored hWorker hFlushed => exact hPut hWorker hFlushed
  | cut hWorker hFlushed => exact hPut hWorker hFlushed
  | @acknowledged w w' h' b hWorker hFlushed =>
      rcases hCommit hWorker hFlushed (.done (.ok ())) with
        ⟨hKey, hCalled⟩
      exact Backed.acknowledged
        (m := ⟨m.engine.putWorker p w', h'⟩)
        hCalled (hFound w') hKey
  | unacknowledged cause hWorker hFlushed =>
      exact (hCommit hWorker hFlushed _).2
  | lost hWorker hFlushed => exact (hCommit hWorker hFlushed _).2

theorem FlushMove.backed
    (hMove : FlushMove m r m')
    (hEngine : m.engine.Keyed)
    (hTop : m.history.topRow = [])
    (hBacked : Backed p m) :
    Backed p m' := by
  rcases hMove with ⟨q, hOut⟩
  by_cases hKey : q = p
  · subst hKey
    exact hOut.backed hEngine hTop hBacked
  · exact hBacked.apart (hOut.apart hEngine hKey)

/- A final flush that goes on has no row of uploads before it. -/
theorem Reaches.topRow_eq
    {start : Moment}
    {why : Stop}
    (hReaches : Reaches start (.flushing why) m) :
    m.history.topRow = [] := by
  generalize hPhase : Phase.flushing why = phase at hReaches
  cases hReaches with
  | @move m m' r => cases r <;> cases hPhase
  | close => rfl
  | flush _ hMove => exact hMove.topRow_eq
  | start => cases hPhase
  | cut => cases hPhase
  | flushed => cases hPhase

/- At every moment of a run, all partitions are backed. -/
theorem Reaches.backed
    {start : Moment}
    {phase : Phase}
    (hReaches : Reaches start phase m)
    (hKeyed : start.engine.Keyed)
    (hStart : Backed p start) :
    Backed p m := by
  induction hReaches with
  | start => exact hStart
  | move hBefore hMove ih =>
      exact hMove.backed (hBefore.keyed hKeyed) ih
  | close _ _ ih => exact ih.of_eq rfl rfl rfl rfl rfl
  | flush hBefore hMove ih =>
      exact hMove.backed (hBefore.keyed hKeyed) hBefore.topRow_eq ih
  | cut hBefore hMove ih =>
      exact hMove.backed (hBefore.keyed hKeyed) hBefore.topRow_eq ih
  | flushed _ ih => exact ih

end FragmentSink
