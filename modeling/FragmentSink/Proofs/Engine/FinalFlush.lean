import FragmentSink.Proofs.Engine.Attribution
import FragmentSink.Proofs.Engine.Gauges
import FragmentSink.Proofs.Worker.Bounds

/-
  The final flush serves each partition by itself.

  A partition with pending fragments has one batch attempted,
  and its offset is committed once if all of it was stored.
  Nothing that goes wrong for one partition reaches another:
  where the storage and the source answer each partition by
  its own calls, so do the calls of the flush depend on the
  partition alone.

  Main declarations:
    * `Drained`
    * `FlushedFor`
    * `SeparateAnswers`
    * `FlushedEach.flushedFor`
    * `flushedFor_flushAll`
-/

namespace FragmentSink

variable {σ : Type}
variable {p q : PartitionKey}
variable {w w' : Worker}
variable {h h' calls : History}
variable {m m₁ m' : Moment}
variable {bs : List CommittedBatch}

------------------------------------------------------------
-- Calls of One Partition
------------------------------------------------------------

namespace History

@[simp] theorem callsFor_append (h h' : History) :
    callsFor p (h ++ h') = callsFor p h ++ callsFor p h' :=
  List.filter_append h h'

theorem callsFor_upload
    {f : Fragment}
    (ending : UploadEnd)
    (hKey : f.partitionKey = p) :
    callsFor p (.upload f ending :: h) =
      .upload f ending :: callsFor p h :=
  List.filter_cons_of_pos (decide_eq_true hKey)

theorem callsFor_commit
    {t : OffsetToken}
    (answer : Awaited (Except Error Unit))
    (hKey : t.key = p) :
    callsFor p (.commit t answer :: h) =
      .commit t answer :: callsFor p h :=
  List.filter_cons_of_pos (decide_eq_true hKey)

theorem callsFor_rewind
    (offset : Int64)
    (answer : Except Error Unit) :
    callsFor p (.rewind p offset answer :: h) =
      .rewind p offset answer :: callsFor p h :=
  List.filter_cons_of_pos (decide_eq_true rfl)

/- Calls beside a partition are none of its own. -/
theorem callsFor_of_beside
    (hBeside : Beside p h h') :
    h'.callsFor p = h.callsFor p := by
  apply hBeside.induction (motive := fun h' =>
    callsFor p h' = callsFor p h) rfl
  intro e h' hOther hHere
  rw [callsFor, List.filter_cons, Event.callsFor_eq_false hOther]
  exact hHere

/- The stored uploads of a partition's fragments are all its own. -/
theorem callsFor_storedRow
    {fs : List Fragment}
    (hKeyed : ∀ f ∈ fs, f.partitionKey = p) :
    callsFor p (storedRow fs) = storedRow fs := by
  induction fs with
  | nil => rfl
  | cons f fs ih =>
      rw [List.forall_mem_cons] at hKeyed
      rw [storedRow, callsFor_append, ih hKeyed.2,
        callsFor_upload .stored hKeyed.1]
      rfl

end History

------------------------------------------------------------
-- Batches of the Final Flush
------------------------------------------------------------

/- The batch that the final flush makes of what is pending for a partition. -/
structure CommittedBatch.IsFinal
    (p : PartitionKey)
    (pending : List Fragment)
    (b : CommittedBatch) : Prop where
  partition : b.partition = p
  reason : b.reason = .shutdown
  first : pending.head?.map (·.offset) = some b.first
  last : pending.getLast?.map (·.token) = some b.last
  fragments : b.fragments = UInt64.ofNat pending.length
  bytes : b.bytes.toNat = min (totalSize pending) Word.top

/-
  How the pending fragments of a partition are drained: the
  calls that are made for the partition, newest first, and the
  batches that are acknowledged.
-/
inductive Drained (p : PartitionKey) :
    List Fragment → History → List CommittedBatch → Prop
| empty : Drained p [] [] []
| unstored
    (before : List Fragment)
    (f : Fragment)
    (after : List Fragment)
    (ending : UploadEnd)
    (hEnding : ending.Fails) :
    Drained p (before ++ f :: after)
      (.upload f ending :: storedRow before) []
| unacknowledged
    {pending : List Fragment}
    (b : CommittedBatch)
    (cause : Error)
    (hBatch : b.IsFinal p pending) :
    Drained p pending
      (.commit b.last (.done (.error cause)) ::
        storedRow pending) []
| acknowledged
    {pending : List Fragment}
    (b : CommittedBatch)
    (hBatch : b.IsFinal p pending) :
    Drained p pending
      (.commit b.last (.done (.ok ())) :: storedRow pending) [b]

/- Acknowledged batches are of the partition that is drained. -/
theorem Drained.partition_eq
    {pending : List Fragment}
    (hDrained : Drained p pending calls bs) :
    ∀ b ∈ bs, b.partition = p := by
  cases hDrained with
  | acknowledged b hBatch =>
      exact List.forall_mem_singleton.mpr hBatch.partition
  | _ => exact List.forall_mem_nil _

/- A batch that failed was uploaded up to the fragment that did. -/
theorem Uploaded.callsFor_of_failed
    {batch : List Fragment}
    (hUploaded : Uploaded batch h .failed h')
    (hOwn : ∀ f ∈ batch, f.partitionKey = p) :
    ∃ before f after ending,
      ending.Fails ∧ batch = before ++ f :: after ∧
        h'.callsFor p =
          (.upload f ending :: storedRow before) ++
            h.callsFor p := by
  cases hUploaded with
  | failed before f after _ ending hEnding =>
      rw [List.forall_mem_append, List.forall_mem_cons] at hOwn
      refine ⟨before, f, after, ending, hEnding, rfl, ?_⟩
      rw [History.callsFor_upload ending hOwn.2.1,
        History.callsFor_append,
        History.callsFor_storedRow hOwn.1]
      rfl

namespace Worker

/- A worker whose counters are kept describes its final batch. -/
theorem Flushed.isFinal
    {b : CommittedBatch}
    (hFlushed : w.Flushed .shutdown h (.committed b) w' h')
    (hKeyed : w.Keyed p)
    (hKept : w.Kept) :
    b.IsFinal p w.pending := by
  cases hFlushed with
  | durable first rest duration now hPending =>
      have hMirrors : w.Mirrors := by
        rcases hKept with hMirrors | hTorn
        · exact hMirrors
        · cases hTorn.pending.symm.trans hPending
      refine ⟨hKeyed.partition, rfl, ?_, ?_, ?_, hMirrors.bytes⟩
      · rw [hPending]
        rfl
      · rw [hPending,
          List.getLast?_eq_some_getLast (List.cons_ne_nil _ _)]
        rfl
      · rw [hPending]
        rfl

/- A batch that was committed was uploaded as a whole. -/
theorem Flushed.callsFor_of_committed
    {reason : FlushReason}
    {b : CommittedBatch}
    (hFlushed : w.Flushed reason h (.committed b) w' h')
    (hKeyed : w.Keyed p) :
    h'.callsFor p = storedRow w.pending ++ h.callsFor p := by
  have hOwn := hKeyed.pending
  cases hFlushed with
  | durable first rest duration now hPending =>
      rw [hPending] at hOwn ⊢
      change History.callsFor p (storedRow (first :: rest) ++ h) = _
      rw [History.callsFor_append,
        History.callsFor_storedRow hOwn]

/- The offset commit that follows it is a call of its partition too. -/
theorem Flushed.callsFor_commit
    {reason : FlushReason}
    {b : CommittedBatch}
    (hFlushed : w.Flushed reason h (.committed b) w' h')
    (hKeyed : w.Keyed p)
    (answer : Awaited (Except Error Unit)) :
    History.callsFor p (.commit b.last answer :: h') =
      (.commit b.last answer :: storedRow w.pending) ++
        h.callsFor p := by
  rw [History.callsFor_commit answer (hFlushed.last_key hKeyed),
    hFlushed.callsFor_of_committed hKeyed]
  rfl

/- A flush that stores nothing for good attempts one batch, if there is any. -/
theorem Flushed.drained_of_unstored
    {reason : FlushReason}
    {answer : FlushEnd}
    (hFlushed : w.Flushed reason h answer w' h')
    (hKeyed : w.Keyed p)
    (hAnswer : answer = .nothing ∨ answer = .failed) :
    ∃ calls,
      h'.callsFor p = calls ++ h.callsFor p ∧
        Drained p w.pending calls [] := by
  have hOwn := hKeyed.pending
  cases hFlushed with
  | empty now hPending =>
      rw [hPending]
      exact ⟨[], rfl, .empty⟩
  | failed first rest uploads now hPending hUploaded =>
      rw [← hPending] at hUploaded
      rcases hUploaded.callsFor_of_failed hOwn with
        ⟨before, f, after, ending, hEnding, hBatch, hCalls⟩
      rw [hBatch]
      exact ⟨_, hCalls, .unstored before f after ending hEnding⟩
  | durable => simp at hAnswer
  | dropped => simp at hAnswer

end Worker

------------------------------------------------------------
-- One Partition
------------------------------------------------------------

/- Count a batch that was acknowledged. -/
def Metrics.recordBatch (m : Metrics) (b : CommittedBatch) : Metrics :=
  m.recordFlush b.reason b.fragments b.bytes b.duration

/-
  What a final flush does for one partition between two
  moments, given the batches of it that were acknowledged.
-/
structure FlushedFor
    (p : PartitionKey)
    (m m' : Moment)
    (bs : List CommittedBatch) : Prop where
  calls :
    ∃ calls,
      m'.history.callsFor p = calls ++ m.history.callsFor p ∧
        Drained p (m.engine.pendingOf p) calls bs
  committed :
    m'.engine.offsets.committed? p =
      (bs.head?.map (·.last.offset)).or
        (m.engine.offsets.committed? p)
  worker :
    ∀ w, m.engine.workers.get? p = some w →
      ∃ w' now,
        m'.engine.workers.get? p = some w' ∧
          w'.pending = [] ∧ w'.state = w.state.renewAt now
  current :
    m'.engine.offsets.current? p = m.engine.offsets.current? p
  failures :
    m'.engine.failures.get? p = m.engine.failures.get? p

/- A partition without a worker is flushed by leaving it alone. -/
theorem Apart.flushedFor
    (hApart : Apart p m m')
    (hNone : m.engine.workers.get? p = none) :
    FlushedFor p m m' [] := by
  refine ⟨⟨[], History.callsFor_of_beside hApart.events, ?_⟩,
    hApart.committed, ?_, hApart.current, hApart.failures⟩
  · rw [Engine.pendingOf, hNone]
    exact .empty
  · intro w hWorker
    cases hNone.symm.trans hWorker

/- What others are served before or after does not matter. -/
theorem FlushedFor.trans_apart
    (hFlushed : FlushedFor p m m₁ bs)
    (hApart : Apart p m₁ m') :
    FlushedFor p m m' bs := by
  rcases hFlushed.calls with ⟨calls, hCalls, hDrained⟩
  refine ⟨⟨calls, ?_, hDrained⟩,
    hApart.committed.trans hFlushed.committed, ?_,
    hApart.current.trans hFlushed.current,
    hApart.failures.trans hFlushed.failures⟩
  · rw [History.callsFor_of_beside hApart.events, hCalls]
  · rw [hApart.worker]
    exact hFlushed.worker

theorem Apart.trans_flushedFor
    (hApart : Apart p m m₁)
    (hFlushed : FlushedFor p m₁ m' bs) :
    FlushedFor p m m' bs := by
  rcases hFlushed.calls with ⟨calls, hCalls, hDrained⟩
  rw [History.callsFor_of_beside hApart.events] at hCalls
  rw [hApart.pendingOf_eq] at hDrained
  refine ⟨⟨calls, hCalls, hDrained⟩, ?_, ?_,
    hFlushed.current.trans hApart.current,
    hFlushed.failures.trans hApart.failures⟩
  · rw [hFlushed.committed, hApart.committed]
  · rw [← hApart.worker]
    exact hFlushed.worker

/- The final flush of a partition that is not dropped. -/
theorem FlushedOut.flushedFor
    (hOut : FlushedOut p m (.ok ()) m')
    (hEngine : m.engine.Keyed)
    (hKept :
      ∀ w, m.engine.workers.get? p = some w → w.Kept) :
    ∃ bs,
      m'.engine.metrics =
          bs.foldl Metrics.recordBatch m.engine.metrics ∧
        FlushedFor p m m' bs := by
  have hRenewed
      {w w' : Worker}
      {answer : FlushEnd}
      {h' : History}
      (hWorker : m.engine.workers.get? p = some w)
      (hFlushed : w.Flushed .shutdown m.history answer w' h')
      (hEnded : answer ≠ .dropped) :
      ∀ u, m.engine.workers.get? p = some u →
        ∃ u' now,
          (m.engine.putWorker p w').workers.get? p = some u' ∧
            u'.pending = [] ∧ u'.state = u.state.renewAt now := by
    intro u hFound
    cases hWorker.symm.trans hFound
    rcases hFlushed.renewed hEnded with ⟨now, -, hState⟩
    exact ⟨w', now, by simp [Engine.putWorker],
      hFlushed.pending_eq_nil, hState⟩
  have hStored (b : CommittedBatch) :
      FlushEnd.committed b ≠ .dropped := by
    intro hDropped
    cases hDropped
  cases hOut with
  | @unstored w w' h' answer hWorker hFlushed hAnswer =>
      have hEnded : answer ≠ .dropped := by
        rintro rfl
        simp at hAnswer
      refine ⟨[], rfl, ⟨?_, rfl,
        hRenewed hWorker hFlushed hEnded, rfl, rfl⟩⟩
      rw [Engine.pendingOf_of_get? hWorker]
      exact hFlushed.drained_of_unstored (hEngine p w hWorker)
        hAnswer
  | @acknowledged w w' h' b hWorker hFlushed =>
      have hKeyed := hEngine p w hWorker
      refine ⟨[b], rfl, ⟨⟨_, hFlushed.callsFor_commit hKeyed _, ?_⟩, ?_,
        hRenewed hWorker hFlushed (hStored b), rfl, rfl⟩⟩
      · rw [Engine.pendingOf_of_get? hWorker]
        exact .acknowledged b
          (hFlushed.isFinal hKeyed (hKept w hWorker))
      · simp [Engine.acknowledged, OffsetTracker.committed?,
          OffsetTracker.markCommitted, hFlushed.last_key hKeyed]
  | @unacknowledged w w' h' b cause hWorker hFlushed =>
      have hKeyed := hEngine p w hWorker
      refine ⟨[], rfl, ⟨⟨_, hFlushed.callsFor_commit hKeyed _, ?_⟩,
        rfl, hRenewed hWorker hFlushed (hStored b), rfl, rfl⟩⟩
      rw [Engine.pendingOf_of_get? hWorker]
      exact .unacknowledged b cause
        (hFlushed.isFinal hKeyed (hKept w hWorker))

------------------------------------------------------------
-- All Partitions
------------------------------------------------------------

/- The batches of one partition. -/
def batchesOf (p : PartitionKey) (bs : List CommittedBatch) :
    List CommittedBatch :=
  bs.filter (·.partition = p)

/- The first batches of a flush are all of one partition. -/
theorem batchesOf_append
    {bs₁ : List CommittedBatch}
    (hOwn : ∀ b ∈ bs₁, b.partition = p)
    (q : PartitionKey)
    (bs : List CommittedBatch) :
    batchesOf q (bs₁ ++ bs) =
      (if p = q then bs₁ else []) ++ batchesOf q bs := by
  rw [batchesOf, List.filter_append]
  congr 1
  split
  case isTrue hSame =>
    rw [List.filter_eq_self]
    intro b hb
    exact decide_eq_true ((hOwn b hb).trans hSame)
  case isFalse hOther =>
    rw [List.filter_eq_nil_iff]
    intro b hb hSame
    exact hOther ((hOwn b hb).symm.trans (of_decide_eq_true hSame))

/-
  A final flush that is not dropped serves the listed
  partitions one by one, and leaves all others alone.
-/
theorem FlushedEach.flushedFor
    {ps : List PartitionKey}
    {r : Except Stop Unit}
    (hFlushed : FlushedEach ps m r m')
    (hEnded : r = .ok ())
    (hNodup : ps.Nodup)
    (hEngine : m.engine.Keyed)
    (hKept :
      ∀ p ∈ ps, ∀ w,
        m.engine.workers.get? p = some w → w.Kept) :
    ∃ bs,
      m'.engine.metrics =
          bs.foldl Metrics.recordBatch m.engine.metrics ∧
        (∀ p ∈ ps, FlushedFor p m m' (batchesOf p bs)) ∧
          ∀ p ∉ ps, Apart p m m' ∧ batchesOf p bs = [] := by
  induction hFlushed with
  | done m =>
      exact ⟨[], rfl, List.forall_mem_nil _, fun p _ =>
        ⟨⟨rfl, rfl, rfl, rfl, .refl _ _⟩, rfl⟩⟩
  | @skipped p ps m m' r hNone _ ih =>
      rw [List.nodup_cons] at hNodup
      rw [List.forall_mem_cons] at hKept
      rcases ih hEnded hNodup.2 hEngine hKept.2 with
        ⟨bs, hMetrics, hOwn, hOthers⟩
      refine ⟨bs, hMetrics, ?_, fun q hOther =>
        hOthers q (fun hIn => hOther (List.mem_cons_of_mem _ hIn))⟩
      rw [List.forall_mem_cons]
      refine ⟨?_, hOwn⟩
      rcases hOthers p hNodup.1 with ⟨hApart, hBatches⟩
      rw [hBatches]
      exact hApart.flushedFor hNone
  | @flushed p ps m m₁ m' r hOut _ ih =>
      rw [List.nodup_cons] at hNodup
      rw [List.forall_mem_cons] at hKept
      have hApart (q : PartitionKey) (hOther : p ≠ q) :
          Apart q m m₁ :=
        hOut.apart hEngine hOther
      have hRest :
          ∀ q ∈ ps, ∀ w,
            m₁.engine.workers.get? q = some w → w.Kept := by
        intro q hIn w hWorker
        have hOther : p ≠ q := fun hSame =>
          hNodup.1 (hSame ▸ hIn)
        rw [(hApart q hOther).worker] at hWorker
        exact hKept.2 q hIn w hWorker
      rcases hOut.flushedFor hEngine hKept.1 with
        ⟨bs₁, hFirst, hHere⟩
      rcases ih hEnded hNodup.2 (FlushMove.keyed ⟨p, hOut⟩ hEngine)
          hRest with
        ⟨bs, hThen, hOwn, hOthers⟩
      have hPartition : ∀ b ∈ bs₁, b.partition = p := by
        rcases hHere.calls with ⟨calls, -, hDrained⟩
        exact hDrained.partition_eq
      refine ⟨bs₁ ++ bs, ?_, ?_, ?_⟩
      · rw [hThen, hFirst, List.foldl_append]
      · rw [List.forall_mem_cons]
        refine ⟨?_, fun q hIn => ?_⟩
        · rcases hOthers p hNodup.1 with ⟨hAfter, hNone⟩
          rw [batchesOf_append hPartition, if_pos rfl, hNone,
            List.append_nil]
          exact hHere.trans_apart hAfter
        · have hOther : p ≠ q := fun hSame =>
            hNodup.1 (hSame ▸ hIn)
          rw [batchesOf_append hPartition, if_neg hOther,
            List.nil_append]
          exact (hApart q hOther).trans_flushedFor (hOwn q hIn)
      · intro q hOther
        rw [List.mem_cons, not_or] at hOther
        rcases hOthers q hOther.2 with ⟨hAfter, hNone⟩
        rw [batchesOf_append hPartition,
          if_neg (Ne.symm hOther.1), hNone]
        exact ⟨(hApart q (Ne.symm hOther.1)).trans hAfter, rfl⟩
  | stopped => cases hEnded

/- So does the final flush of a run, whatever its steps left behind. -/
theorem FlushedAll.flushedFor
    (hFlushed : FlushedAll m (.ok ()) m')
    (hEngine : m.engine.Keyed)
    (hKept : m.engine.Each Worker.Kept) :
    ∃ bs,
      m'.engine.metrics =
          bs.foldl Metrics.recordBatch m.engine.metrics ∧
        ∀ p,
          FlushedFor p ⟨m.engine, .closing :: m.history⟩ m'
            (batchesOf p bs) := by
  rcases hFlushed with ⟨ps, hPerm, hEach⟩
  have hNodup : ps.Nodup :=
    hPerm.nodup_iff.mpr m.engine.workers.nodup
  rcases hEach.flushedFor rfl hNodup hEngine
      (fun p _ w hWorker => hKept p w hWorker) with
    ⟨bs, hMetrics, hOwn, hOthers⟩
  refine ⟨bs, hMetrics, fun p => ?_⟩
  by_cases hIn : p ∈ ps
  · exact hOwn p hIn
  · rcases hOthers p hIn with ⟨hApart, hNone⟩
    rw [hNone]
    apply hApart.flushedFor
    rw [hPerm.mem_iff, Table.mem_keys_iff, not_not] at hIn
    exact hIn

------------------------------------------------------------
-- Separate Answers
------------------------------------------------------------

/-
  A storage and a source that serve each partition by itself:
  what they answer to a call depends on the calls that were
  made for its partition before, the newest first.
-/
structure SeparateAnswers where
  upload : History → Fragment → UploadEnd
  commit : History → OffsetToken → Awaited (Except Error Unit)

/- Whether an event is answered so, after what had happened. -/
def Event.follows
    (a : SeparateAnswers)
    (before : History) : Event → Bool
| .upload f ending =>
    a.upload (before.callsFor f.partitionKey) f = ending
| .commit t answer => a.commit (before.callsFor t.key) t = answer
| _ => true

/- Whether every event of a history is. -/
def History.follows (a : SeparateAnswers) : History → Bool
| [] => true
| e :: h => e.follows a h && follows a h

namespace SeparateAnswers

variable (a : SeparateAnswers)

/-
  The calls after a batch is committed up to its last fragment,
  on top of the earlier calls of its partition.
-/
def committing (own : History) (last : OffsetToken) :
    List Fragment → History
| [] => .commit last (a.commit own last) :: own
| f :: fs =>
    match a.upload own f with
    | .stored => committing (.upload f .stored :: own) last fs
    | ending => .upload f ending :: own

/- The calls after what is pending is committed as one batch, if it is not empty. -/
def draining (own : History) (pending : List Fragment) : History :=
  match pending.getLast? with
  | none => own
  | some f => a.committing own f.token pending

end SeparateAnswers

section Follows

variable {a : SeparateAnswers}
variable {e : Event}

theorem History.follows_cons_iff :
    follows a (e :: h) = true ↔
      e.follows a h = true ∧ h.follows a = true :=
  Bool.and_eq_true_iff

theorem History.follows_of_append
    (hFollows : follows a (h ++ h') = true) :
    h'.follows a = true := by
  induction h with
  | nil => exact hFollows
  | cons e h ih => exact ih (follows_cons_iff.mp hFollows).2

theorem History.callsFor_callsFor (h : History) :
    callsFor p (h.callsFor p) = h.callsFor p :=
  List.filter_filter.trans (by simp [callsFor])

/- The calls of one partition follow the answers by themselves. -/
theorem History.follows_callsFor
    (hFollows : h.follows a = true) :
    follows a (h.callsFor p) = true := by
  induction h with
  | nil => rfl
  | cons e h ih =>
      rw [follows_cons_iff] at hFollows
      have hRest := ih hFollows.2
      by_cases hOwn : e.callsFor p = true
      · have hHere : e.follows a (callsFor p h) = true := by
          cases e with
          | upload f ending =>
              cases of_decide_eq_true hOwn
              simpa only [Event.follows, callsFor_callsFor] using
                hFollows.1
          | commit t answer =>
              cases of_decide_eq_true hOwn
              simpa only [Event.follows, callsFor_callsFor] using
                hFollows.1
          | _ => rfl
        rw [callsFor, List.filter_cons_of_pos hOwn]
        exact follows_cons_iff.mpr ⟨hHere, hRest⟩
      · rw [callsFor, List.filter_cons_of_neg hOwn]
        exact hRest

/- Stored uploads that follow the answers are those of a commit so far. -/
theorem SeparateAnswers.committing_append
    {own : History}
    {fs : List Fragment}
    (last : OffsetToken)
    (gs : List Fragment)
    (hFollows : History.follows a (storedRow fs ++ own) = true)
    (hKeyed : ∀ f ∈ fs, f.partitionKey = p)
    (hOwn : own.callsFor p = own) :
    a.committing own last (fs ++ gs) =
      a.committing (storedRow fs ++ own) last gs := by
  induction fs generalizing own with
  | nil => rfl
  | cons f fs ih =>
      rw [List.forall_mem_cons] at hKeyed
      rw [storedRow, List.append_assoc, List.singleton_append]
        at hFollows ⊢
      have hHere :=
        (History.follows_cons_iff.mp
          (History.follows_of_append hFollows)).1
      have hUpload : a.upload own f = .stored := by
        simpa [Event.follows, hKeyed.1, hOwn] using hHere
      have hNext :
          History.callsFor p (.upload f .stored :: own) =
            .upload f .stored :: own := by
        rw [History.callsFor_upload .stored hKeyed.1, hOwn]
      rw [List.cons_append, committing, hUpload]
      exact ih hFollows hKeyed.2 hNext

/- Stored uploads of a partition, on top of its own calls, are all its own. -/
theorem History.callsFor_row
    {own : History}
    {fs : List Fragment}
    (hKeyed : ∀ f ∈ fs, f.partitionKey = p)
    (hOwn : own.callsFor p = own) :
    callsFor p (storedRow fs ++ own) = storedRow fs ++ own := by
  rw [callsFor_append, hOwn, callsFor_storedRow hKeyed]

/- The calls of a batch that became durable are those that drain its partition. -/
theorem CommittedBatch.IsFinal.calls_eq
    {own : History}
    {pending : List Fragment}
    {b : CommittedBatch}
    {answer : Awaited (Except Error Unit)}
    (hBatch : b.IsFinal p pending)
    (hFollows :
      History.follows a
          (.commit b.last answer :: (storedRow pending ++ own)) =
        true)
    (hKeyed : ∀ f ∈ pending, f.partitionKey = p)
    (hOwn : own.callsFor p = own) :
    .commit b.last answer :: (storedRow pending ++ own) =
      a.draining own pending := by
  rcases Option.map_eq_some_iff.mp hBatch.last with
    ⟨f, hLast, hToken⟩
  have hKey : b.last.key = p := by
    rw [← hToken]
    exact hKeyed f (List.mem_of_getLast? hLast)
  rw [History.follows_cons_iff] at hFollows
  have hAnswer :
      a.commit (storedRow pending ++ own) b.last = answer := by
    simpa only [Event.follows, hKey,
      History.callsFor_row hKeyed hOwn, decide_eq_true_eq] using
      hFollows.1
  have hAll :=
    SeparateAnswers.committing_append b.last [] hFollows.2 hKeyed
      hOwn
  rw [List.append_nil] at hAll
  simp only [SeparateAnswers.draining, hLast, hToken]
  rw [hAll, SeparateAnswers.committing, hAnswer]

/- The calls that drain a partition depend on its own earlier calls alone. -/
theorem Drained.calls_eq
    {own : History}
    {pending : List Fragment}
    (hDrained : Drained p pending calls bs)
    (hFollows : History.follows a (calls ++ own) = true)
    (hKeyed : ∀ f ∈ pending, f.partitionKey = p)
    (hOwn : own.callsFor p = own) :
    calls ++ own = a.draining own pending := by
  cases hDrained with
  | empty => rfl
  | unstored before f after ending hEnding =>
      rw [List.forall_mem_append, List.forall_mem_cons] at hKeyed
      rw [List.cons_append, History.follows_cons_iff] at hFollows
      have hAnswer :
          a.upload (storedRow before ++ own) f = ending := by
        simpa only [Event.follows, hKeyed.2.1,
          History.callsFor_row hKeyed.1 hOwn,
          decide_eq_true_eq] using hFollows.1
      cases hLast : (before ++ f :: after).getLast? with
      | none => simp at hLast
      | some last =>
          simp only [SeparateAnswers.draining, hLast]
          rw [SeparateAnswers.committing_append _ _ hFollows.2
            hKeyed.1 hOwn, SeparateAnswers.committing, hAnswer]
          cases ending with
          | stored => cases hEnding
          | _ => rfl
  | unacknowledged b cause hBatch =>
      exact hBatch.calls_eq hFollows hKeyed hOwn
  | acknowledged b hBatch =>
      exact hBatch.calls_eq hFollows hKeyed hOwn

end Follows

/- The session in which the final flush of a run begins. -/
def Session.closing (world : World σ) (s : Session σ) : Session σ :=
  { s with
    world := world.limitShutdown Engine.shutdownLimit s.world }

/-
  A final flush that is not dropped serves each partition by
  itself, whatever the steps before it left behind.  One batch
  is attempted of what is pending for a partition, and what
  comes of it is all that the metrics and the tracker show.
  Where storage and source answer the partitions separately,
  the calls for a partition depend on its earlier calls and
  on what is pending for it, and on nothing else.
-/
theorem isolated_flushAll
    (world : World σ)
    (settings : Settings)
    (steps : Nat)
    (start : σ)
    (a : SeparateAnswers)
    {r : Except Stop Unit}
    {s t : Session (σ × History)}
    (hSteps :
      (Engine.stepping world.recorded steps).run.run
          ⟨(Engine.fresh settings).started, start, []⟩ =
        (r, s))
    (hFlush :
      (Engine.flushAll world.recorded).run.run
          (s.closing world.recorded) =
        (.ok (), t))
    (hFollows : t.world.2.follows a = true) :
    ∃ bs,
      t.engine.metrics =
          bs.foldl Metrics.recordBatch s.engine.metrics ∧
        ∀ p,
          FlushedFor p s.moment t.moment (batchesOf p bs) ∧
            t.world.2.callsFor p =
              a.draining (s.world.2.callsFor p)
                (s.engine.pendingOf p) := by
  have hReaches := reaches_stepping world steps hSteps
  have hEngine : s.engine.Keyed := hReaches.keyed nofun
  have hKept : s.engine.Each Worker.Kept :=
    (hReaches.mirrors nofun).2
  have hFlushed : FlushedAll s.moment (.ok ()) t.moment :=
    (ends_flushAll_inTurn world rfl).of_run hFlush
  rcases hFlushed.flushedFor hEngine hKept with
    ⟨bs, hMetrics, hEach⟩
  refine ⟨bs, hMetrics, fun p => ?_⟩
  have hHere := hEach p
  have hPart : FlushedFor p s.moment t.moment (batchesOf p bs) :=
    ⟨hHere.calls, hHere.committed, hHere.worker, hHere.current,
      hHere.failures⟩
  refine ⟨hPart, ?_⟩
  rcases hPart.calls with ⟨calls, hCalls, hDrained⟩
  have hPending :
      ∀ f ∈ s.engine.pendingOf p, f.partitionKey = p := by
    intro f hMember
    rw [Engine.pendingOf] at hMember
    cases hWorker : s.engine.workers.get? p with
    | none => simp [hWorker] at hMember
    | some w =>
        rw [hWorker] at hMember
        exact (hEngine p w hWorker).pending f hMember
  have hAnswered :
      History.follows a (calls ++ s.world.2.callsFor p) = true := by
    have hAll := History.follows_callsFor (p := p) hFollows
    rw [show t.world.2.callsFor p = _ from hCalls] at hAll
    exact hAll
  exact hCalls.trans
    (hDrained.calls_eq hAnswered hPending
      (History.callsFor_callsFor s.world.2))

/- Fragments of four partitions, of which the last is not delivered. -/
def Script.several : Script where
  polls :=
    [(0, 3), (1, 3), (2, 3), (0, 4), (1, 4)].map
      fun (n, offset) =>
        .fragment ⟨.empty, 5, ⟨⟨"logs", n⟩, offset⟩⟩
  uploads := []
  assigned := [0, 1, 2, 3].map fun n => ⟨"logs", n⟩

/- Answers that refuse a fragment of one partition, and a commit of another. -/
def pickyAnswers : SeparateAnswers where
  upload _ f :=
    if f.token = ⟨⟨"logs", 1⟩, 4⟩ then .refused else .stored
  commit _ t :=
    if t.key = ⟨"logs", 2⟩ then
      .done (.error (.kafka (.offsetCommit "refused")))
    else
      .done (.ok ())

/- The script's world with such answers. -/
def pickyWorld : World Script :=
  { Script.world with
    upload := fun f s => (pickyAnswers.upload [] f, s)
    commitThrough := fun t s => (pickyAnswers.commit [] t, s) }

/- Settings under which no buffer is full. -/
def roomySettings : Settings :=
  { Script.settings with buffer := { messageCount := 10 } }

@[irreducible] def pickySteps :
    Except Stop Unit × Session (Script × History) :=
  (Engine.stepping pickyWorld.recorded 9).run.run
    ⟨(Engine.fresh roomySettings).started, Script.several, []⟩

@[irreducible] def pickyFlush :
    Except Stop Unit × Session (Script × History) :=
  (Engine.flushAll pickyWorld.recorded).run.run
    (pickySteps.2.closing pickyWorld.recorded)

/-
  One partition is stored and acknowledged, while an upload of
  the next and the offset commit of a third are refused.
-/
theorem isolated_pickyFlush :
    pickySteps.1 = .error .dropped ∧
      pickyFlush.1 = .ok () ∧
      pickyFlush.2.world.2.follows pickyAnswers = true ∧
      pickyFlush.2.engine.metrics.flushes = 1 ∧
      (pickyFlush.2.engine.offsets.committed?
        ⟨"logs", 0⟩).isSome = true ∧
      ∃ bs,
        pickyFlush.2.engine.metrics =
            bs.foldl Metrics.recordBatch
              pickySteps.2.engine.metrics ∧
          ∀ p,
            FlushedFor p pickySteps.2.moment
                pickyFlush.2.moment (batchesOf p bs) ∧
              pickyFlush.2.world.2.callsFor p =
                pickyAnswers.draining
                  (pickySteps.2.world.2.callsFor p)
                  (pickySteps.2.engine.pendingOf p) := by
  -- The kernel does not sort the partitions whose lags are added.
  have hFacts :
      pickySteps.1 = .error .dropped ∧
        pickyFlush.1 = .ok () ∧
        pickyFlush.2.world.2.follows pickyAnswers = true ∧
        pickyFlush.2.engine.metrics.flushes = 1 ∧
        (pickyFlush.2.engine.offsets.committed?
          ⟨"logs", 0⟩).isSome = true := by
    unfold pickyFlush pickySteps
    cbv
  rcases hFacts with
    ⟨hSteps, hFlush, hFollows, hCounted, hCommitted⟩
  refine ⟨hSteps, hFlush, hFollows, hCounted, hCommitted, ?_⟩
  exact isolated_flushAll pickyWorld roomySettings 9
    Script.several pickyAnswers (r := pickySteps.1)
    (s := pickySteps.2) (t := pickyFlush.2)
    (by rw [Prod.eta, pickySteps])
    (by rw [← hFlush, Prod.eta, pickyFlush])
    hFollows

end FragmentSink
