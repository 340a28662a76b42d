import FragmentSink.Proofs.Engine.Closing
import FragmentSink.Proofs.Ledger
import FragmentSink.Proofs.Script

/-
  The counters of a running engine agree with the ledger of
  its history.

  Whatever is pending in the ledger is pending in the worker
  of its partition, and every counter is the number of entries
  it stands for, as far as its word can tell.

  Main declarations:
    * `Metrics.Counts`
    * `Balanced`
    * `Move.balanced`
    * `balanced_of_run`
-/

namespace FragmentSink

variable {p q : PartitionKey}
variable {w w' : Worker}
variable {h h' : History}
variable {l : Ledger}
variable {m m₁ m' start : Moment}
variable {r : Except Stop Unit}
variable {answer : FlushEnd}

------------------------------------------------------------
-- Counters
------------------------------------------------------------

namespace Metrics

variable {metrics : Metrics}

/- The counters that a ledger accounts for. -/
structure Counts (metrics : Metrics) (l : Ledger) : Prop where
  consumed :
    metrics.fragmentsConsumed = UInt64.ofNat l.delivered.length
  flushed :
    metrics.fragmentsFlushed = UInt64.ofNat l.flushed.length
  flushes : metrics.flushes = UInt64.ofNat l.commits
  reasons :
    metrics.flushes =
      metrics.flushesByReason .messageCount +
        metrics.flushesByReason .byteSize +
        metrics.flushesByReason .commitTime +
        metrics.flushesByReason .shutdown
  failures : metrics.commitFailures = UInt64.ofNat l.rewinds
  redeliveries : metrics.redeliveries = UInt64.ofNat l.rewinds
  errors : metrics.errors .buffer = UInt64.ofNat l.rewinds

theorem counts_zero : zero.Counts .empty := by
  constructor <;> rfl

theorem Counts.deliver
    (hCounts : metrics.Counts l)
    (f : Fragment) :
    (metrics.recordFragment f.size).Counts (l.deliver f) := by
  refine { hCounts with consumed := ?_ }
  simp [recordFragment, Ledger.deliver, hCounts.consumed,
    UInt64.ofNat_add]

/- A batch that is acknowledged counts all that was pending. -/
theorem Counts.flush
    {fragments : UInt64}
    (hCounts : metrics.Counts l)
    (hFragments :
      fragments = UInt64.ofNat (l.pendingOf p).length)
    (reason : FlushReason)
    (bytes : UInt64)
    (duration : Span) :
    (metrics.recordFlush reason fragments bytes duration).Counts
      (l.flush p) := by
  refine
    { hCounts with flushed := ?_, flushes := ?_, reasons := ?_ }
  · simp [recordFlush, Ledger.flush, hCounts.flushed, hFragments,
      UInt64.ofNat_add]
  · simp [recordFlush, Ledger.flush, hCounts.flushes,
      UInt64.ofNat_add]
  · simp only [recordFlush, hCounts.reasons]
    cases reason <;> simp only [bump] <;> grind

/- A batch that failed and was sent back counts once for each. -/
theorem Counts.fail
    (hCounts : metrics.Counts l)
    (p : PartitionKey)
    (elapsed : Span) :
    (metrics.recordCommitFailure elapsed).recordRedelivery.Counts
      { l.fail p with rewinds := l.rewinds + 1 } := by
  refine
    { hCounts with failures := ?_, redeliveries := ?_, errors := ?_ }
  · simp [recordRedelivery, recordCommitFailure,
      hCounts.failures, UInt64.ofNat_add]
  · simp [recordRedelivery, recordCommitFailure, recordError,
      hCounts.redeliveries, UInt64.ofNat_add]
  · simp [recordRedelivery, recordCommitFailure, recordError,
      bump, hCounts.errors, UInt64.ofNat_add]

/- Errors of the stream are counted apart. -/
theorem Counts.recordError
    (hCounts : metrics.Counts l) :
    (metrics.recordError .kafka).Counts l := by
  refine { hCounts with errors := ?_ }
  simp [Metrics.recordError, bump, hCounts.errors]

end Metrics

/- Setting the gauges leaves the counters as they are. -/
theorem Engine.Gauged.counts
    {e : Engine}
    {metrics : Metrics}
    (hGauged : e.Gauged metrics)
    (hCounts : e.metrics.Counts l) :
    metrics.Counts l := by
  cases hGauged
  exact { hCounts with }

------------------------------------------------------------
-- Balanced Moments
------------------------------------------------------------

namespace Engine

variable {e e' : Engine}

theorem pendingOf_putWorker_of
    (e : Engine)
    (p : PartitionKey)
    (w : Worker)
    (q : PartitionKey) :
    (e.putWorker p w).pendingOf q =
      if p = q then w.pending else e.pendingOf q := by
  by_cases hKey : p = q <;> simp [pendingOf, putWorker, hKey]

theorem pendingOf_congr
    (hWorkers : e'.workers = e.workers)
    (q : PartitionKey) :
    e'.pendingOf q = e.pendingOf q := by
  rw [pendingOf, hWorkers]
  rfl

theorem pendingOf_keepOnly
    (e : Engine)
    (ps : List PartitionKey)
    (q : PartitionKey) :
    (e.keepOnly ps).pendingOf q =
      if ps.contains q then e.pendingOf q else [] := by
  by_cases hKept : q ∈ ps <;> simp [pendingOf, keepOnly, hKept]

@[simp] theorem metrics_recovered
    (e : Engine)
    (p : PartitionKey) :
    (e.recovered p).metrics = e.metrics := by
  simp only [recovered]
  split <;> rfl

end Engine

/-
  An engine and the ledger of its history agree: on what is
  pending for each partition, and on every counter.
-/
structure Balanced (m : Moment) : Prop where
  pending :
    ∀ p, (ledger m.history).pendingOf p = m.engine.pendingOf p
  counts : m.engine.metrics.Counts (ledger m.history)

/- Only workers, metrics and the ledger matter. -/
theorem Balanced.of_eq
    (hBalanced : Balanced m)
    (hLedger : ledger m'.history = ledger m.history)
    (hPending :
      ∀ p, m'.engine.pendingOf p = m.engine.pendingOf p)
    (hCounts : m'.engine.metrics.Counts (ledger m.history)) :
    Balanced m' := by
  constructor
  · intro p
    rw [hLedger, hPending]
    exact hBalanced.pending p
  · rw [hLedger]
    exact hCounts

/- A worker that is at hand may as well be put in its place. -/
theorem Balanced.putWorker
    (hBalanced : Balanced m)
    (hPending : w.pending = m.engine.pendingOf p)
    (hLedger : ledger h = ledger m.history) :
    Balanced ⟨m.engine.putWorker p w, h⟩ := by
  refine hBalanced.of_eq hLedger (fun q => ?_) hBalanced.counts
  rw [Engine.pendingOf_putWorker_of]
  by_cases hKey : p = q
  · rw [if_pos hKey, hPending, hKey]
  · exact if_neg hKey

/- The ledger after the outcome of a flush was settled without a stop. -/
def Ledger.settled
    (l : Ledger)
    (p : PartitionKey) : FlushEnd → Ledger
| .committed _ => l.flush p
| .failed => { l.fail p with rewinds := l.rewinds + 1 }
| _ => l

/- What a tick takes of its worker is what the ledger moves. -/
theorem Worker.HandsOver.pendingOf_settled
    (hHanded : w.HandsOver w' h' answer)
    (hAnswer : answer ≠ .dropped)
    (hOwn : l.pendingOf p = w.pending)
    (q : PartitionKey) :
    (l.settled p answer).pendingOf q =
      if p = q then w'.pending else l.pendingOf q := by
  cases answer with
  | nothing =>
      have hSame : w'.pending = w.pending := hHanded
      rw [hSame, ← hOwn]
      by_cases hKey : p = q
      · rw [if_pos hKey, hKey]
        rfl
      · exact (if_neg hKey).symm
  | committed b =>
      have hNone : w'.pending = [] := hHanded.1
      rw [hNone]
      exact l.pendingOf_flush p q
  | failed =>
      have hNone : w'.pending = [] := hHanded.1
      rw [hNone]
      exact l.pendingOf_fail p q
  | dropped => exact absurd rfl hAnswer

/- Settling an outcome counts what it moves in the ledger. -/
theorem Settled.counted
    {elapsed : Span}
    (hSettled : Settled p elapsed m answer r m')
    (hGoesOn : r = .ok ())
    (hLedger : ledger m.history = l.ticked p answer)
    (hCounts : m.engine.metrics.Counts l)
    (hBatch :
      ∀ b, answer = .committed b →
        b.last.key = p ∧
          b.fragments =
            UInt64.ofNat (l.pendingOf p).length) :
    ledger m'.history = l.settled p answer ∧
      m'.engine.metrics.Counts (l.settled p answer) := by
  cases hSettled with
  | nothing => exact ⟨hLedger, hCounts⟩
  | acknowledged b =>
      rcases hBatch b rfl with ⟨hKey, hFragments⟩
      constructor
      · rw [ledger, hLedger, ← hKey]
        rfl
      · rw [Engine.metrics_recovered]
        exact hCounts.flush hFragments b.reason b.bytes b.duration
  | waited n backoff offset offsets answer =>
      constructor
      · simp only [ledger, hLedger]
        rfl
      · exact hCounts.fail p elapsed
  | unacknowledged => cases hGoesOn
  | lost => cases hGoesOn
  | halted => cases hGoesOn
  | unsent => cases hGoesOn
  | untracked => cases hGoesOn

/-
  A worker that is loaded with what is pending ticks, and its
  outcome is settled without a stop.
-/
theorem Worked.balanced
    (hWorked : Worked p w m r m')
    (hGoesOn : r = .ok ())
    (hKeyed : w.Keyed p)
    (hBalanced :
      Balanced ⟨m.engine.putWorker p w, m.history⟩) :
    Balanced m' := by
  cases hWorked with
  | cut => cases hGoesOn
  | settled elapsed hTicked hAnswer hSettled =>
      have hOwn : (ledger m.history).pendingOf p = w.pending := by
        simpa using hBalanced.pending p
      rcases hSettled.counted hGoesOn
          (hTicked.ledger_eq hKeyed.pending hAnswer)
          hBalanced.counts (by
            rintro b rfl
            rw [hOwn]
            exact ⟨hTicked.last_key hKeyed,
              hTicked.fragments_eq⟩) with
        ⟨hLedger, hCounts⟩
      refine ⟨fun q => ?_, hLedger ▸ hCounts⟩
      rw [hLedger,
        hTicked.handsOver.pendingOf_settled hAnswer hOwn,
        Engine.pendingOf_congr hSettled.workers_eq,
        Engine.pendingOf_putWorker_of]
      by_cases hKey : p = q
      · rw [if_pos hKey, if_pos hKey]
      · have hOther := hBalanced.pending q
        rw [Engine.pendingOf_putWorker_of, if_neg hKey] at hOther
        rw [if_neg hKey, if_neg hKey]
        exact hOther

/- A worker that is readied has what is pending for its partition. -/
theorem Readied.balanced
    (hReadied : Readied p m w m₁) :
    ledger m₁.history = ledger m.history ∧
      m₁.engine.metrics = m.engine.metrics ∧
      ∀ q,
        m.engine.pendingOf q =
          if p = q then w.pending else m₁.engine.pendingOf q := by
  cases hReadied with
  | kept w hWorker =>
      refine ⟨rfl, rfl, fun q => ?_⟩
      by_cases hKey : p = q
      · rw [if_pos hKey, ← hKey]
        exact Engine.pendingOf_of_get? hWorker
      · exact (if_neg hKey).symm
  | opened now hNone =>
      refine ⟨rfl, rfl, fun q => ?_⟩
      by_cases hKey : p = q
      · rw [if_pos hKey, ← hKey, Engine.pendingOf, hNone]
        rfl
      · rw [if_neg hKey, Engine.pendingOf_putWorker_of,
          if_neg hKey]

/- What is delivered is pending, once its worker has it. -/
theorem Balanced.delivered
    {f : Fragment}
    (hBalanced : Balanced m)
    (hReadied :
      Readied f.partitionKey
        ⟨m.engine.taking f,
          .poll (.done (.fragment f)) :: m.history⟩ w m₁) :
    Balanced
      ⟨m₁.engine.putWorker f.partitionKey (w.append f),
        m₁.history⟩ := by
  rcases hReadied.balanced with ⟨hLedger, hMetrics, hPending⟩
  have hDelivered :
      ledger m₁.history = (ledger m.history).deliver f :=
    hLedger
  constructor
  · intro q
    have hBefore : m.engine.pendingOf q = _ := hPending q
    rw [hDelivered, Ledger.pendingOf_deliver,
      hBalanced.pending q, hBefore,
      Engine.pendingOf_putWorker_of]
    by_cases hKey : f.partitionKey = q
    · simp only [if_pos hKey]
      rfl
    · simp only [if_neg hKey, List.append_nil]
  · rw [hDelivered]
    have hCounts := hBalanced.counts.deliver f
    have hTaken :
        (m₁.engine.putWorker f.partitionKey
            (w.append f)).metrics =
          m.engine.metrics.recordFragment f.size :=
      hMetrics
    rwa [hTaken]

/- A move that goes on keeps the balance. -/
theorem Move.balanced
    (hMove : Move m r m')
    (hGoesOn : r = .ok ())
    (hEngine : m.engine.Keyed)
    (hBalanced : Balanced m) :
    Balanced m' := by
  have hPending := hBalanced.pending
  have hCounts := hBalanced.counts
  cases hMove with
  | quiet => exact ⟨hPending, hCounts⟩
  | troubled => exact ⟨hPending, hCounts.recordError⟩
  | delivered hReadied hRouted hWorked =>
      have hWorker := (hReadied.keyed hEngine).1
      exact hWorked.balanced hGoesOn (hWorker.append hRouted)
        (hBalanced.delivered hReadied)
  | released ps =>
      refine ⟨fun q => ?_, { hCounts with }⟩
      rw [ledger, Ledger.after, Ledger.pendingOf_release,
        Engine.pendingOf_keepOnly, hPending q]
  | unassigned => exact ⟨hPending, hCounts⟩
  | ticked hWorker hWorked =>
      exact hWorked.balanced hGoesOn (hEngine _ _ hWorker)
        (hBalanced.putWorker
          (Engine.pendingOf_of_get? hWorker).symm rfl)
  | gauged metrics hGauged =>
      exact ⟨hPending, hGauged.counts hCounts⟩
  | unpolled => cases hGoesOn
  | broken => cases hGoesOn
  | misrouted => cases hGoesOn
  | overflowed => cases hGoesOn

------------------------------------------------------------
-- Pending Over All Workers
------------------------------------------------------------

/- The pending fragments of all workers, one worker after the other. -/
def Engine.allPending (e : Engine) : List Fragment :=
  e.workers.values.flatMap (·.pending)

/- Of all entries, one partition's fragments are in its own. -/
theorem Entries.filter_pending
    {es : List (PartitionKey × Worker)}
    (hNodup : (es.map Prod.fst).Nodup)
    (hKeyed : ∀ e ∈ es, e.2.Keyed e.1)
    (p : PartitionKey) :
    (((es.map Prod.snd).flatMap (·.pending)).filter
        fun f => f.partitionKey = p) =
      ((get? p es).map (·.pending)).getD [] := by
  induction es with
  | nil => rfl
  | cons e es ih =>
      rw [List.map_cons, List.nodup_cons] at hNodup
      rw [List.forall_mem_cons] at hKeyed
      have hRest := ih hNodup.2 hKeyed.2
      have hFirst := hKeyed.1.pending
      rw [List.map_cons, List.flatMap_cons, List.filter_append,
        hRest, get?]
      by_cases hKey : e.1 = p
      · have hNone : get? p es = none :=
          get?_eq_none_iff.mpr (hKey ▸ hNodup.1)
        have hAll :
            (e.2.pending.filter fun f => f.partitionKey = p) =
              e.2.pending :=
          List.filter_eq_self.mpr fun f hf => by
            simpa [← hKey] using hFirst f hf
        simp [hKey, hNone, hAll]
      · have hNothing :
            (e.2.pending.filter fun f => f.partitionKey = p) =
              [] :=
          List.filter_eq_nil_iff.mpr fun f hf => by
            simpa [hFirst f hf] using hKey
        simp [hKey, hNothing]

/- Workers of an engine hold what is pending for their partitions. -/
theorem Engine.Keyed.filter_allPending
    {e : Engine}
    (hKeyed : e.Keyed)
    (p : PartitionKey) :
    (e.allPending.filter fun f => f.partitionKey = p) =
      e.pendingOf p :=
  Entries.filter_pending e.workers.nodup
    (fun _ hEntry => hKeyed _ _ (Table.get?_of_mem hEntry)) p

/-
  Every fragment that was delivered was flushed, is pending in
  a worker, was in a batch that failed or was released with
  its partition, each once, and the counters say how many.
-/
structure Engine.Accounted (e : Engine) (h : History) : Prop where
  complete :
    (ledger h).delivered.Perm
      ((ledger h).flushed ++ e.allPending ++ (ledger h).failed ++
        (ledger h).released)
  counts : e.metrics.Counts (ledger h)
  conserved :
    e.metrics.fragmentsConsumed =
      e.metrics.fragmentsFlushed +
        UInt64.ofNat e.allPending.length +
        UInt64.ofNat (ledger h).failed.length +
        UInt64.ofNat (ledger h).released.length

/- A balanced engine has accounted for every fragment. -/
theorem Balanced.accounted
    (hBalanced : Balanced m)
    (hKeyed : m.engine.Keyed) :
    m.engine.Accounted m.history := by
  have hPending :
      (ledger m.history).pending.Perm m.engine.allPending := by
    apply Ledger.perm_of_pendingOf
    intro p
    rw [hBalanced.pending, hKeyed.filter_allPending]
  have hComplete :=
    (complete_ledger m.history).trans
      (((hPending.append_left _).append_right _).append_right _)
  have hLength := congrArg UInt64.ofNat hComplete.length_eq
  simp only [List.length_append, UInt64.ofNat_add] at hLength
  refine ⟨hComplete, hBalanced.counts, ?_⟩
  rw [hBalanced.counts.consumed, hBalanced.counts.flushed]
  exact hLength

/- A loop that goes on is balanced after every move. -/
theorem Reaches.balanced
    (hReaches : Reaches start (.after r) m)
    (hKeyed : start.engine.Keyed)
    (hStart : Balanced start) :
    r = .ok () → Balanced m :=
  hReaches.loop_induction
    (motive := fun r m => r = .ok () → Balanced m)
    (fun _ => hStart)
    fun _ _ _ hBefore hBalanced hMove hGoesOn =>
      hMove.balanced hGoesOn (hBefore.keyed hKeyed)
        (hBalanced rfl)

/-
  At every poll of a run, each fragment that was delivered is
  accounted for, and so are the commits and the redeliveries.
-/
theorem accounted_of_run
    {σ : Type}
    (world : World σ)
    (settings : Settings)
    (steps : Nat)
    (s : σ) :
    ∀ t ∈
        (Engine.run world.recorded steps (.fresh settings)
          (s, [])).atPolls,
      t.engine.Accounted t.world.2 := by
  intro t hPoll
  have hReaches :=
    (run_reaches world steps (.fresh settings) s []).1 t hPoll
  have hKeyed : (Engine.fresh settings).started.Keyed := nofun
  have hStart : Balanced ⟨(Engine.fresh settings).started, []⟩ :=
    ⟨fun _ => rfl, Metrics.counts_zero⟩
  have hBalanced :=
    Reaches.balanced (r := .ok ()) hReaches hKeyed hStart rfl
  exact hBalanced.accounted (hReaches.keyed hKeyed)

/- A partition that no assignment lists. -/
def Script.foreign : PartitionKey :=
  ⟨"logs", 1⟩

/-
  A batch fails and is stored when it is delivered again; a
  fragment is released, and another stays pending.
-/
def Script.mixed : Script where
  polls :=
    .fragment ⟨.empty, 5, ⟨foreign, 0⟩⟩ ::
      [3, 4, 3, 4, 6].map fun offset =>
        .fragment (fragment offset)
  uploads := [.stored, .refused]
  assigned := [partition]

@[irreducible] def mixedRun : Engine.Run (Script × History) :=
  Engine.run Script.world.recorded 9 (.fresh Script.settings)
    (Script.mixed, [])

theorem accounted_of_mixedRun :
    ∃ t ∈ mixedRun.atPolls,
      (ledger t.world.2).flushed.length = 2 ∧
        t.engine.allPending = [Script.fragment 6] ∧
        (ledger t.world.2).failed.length = 2 ∧
        (ledger t.world.2).released.length = 1 ∧
        t.engine.Accounted t.world.2 := by
  have hLast :
      ∃ t ∈ mixedRun.atPolls,
        (ledger t.world.2).flushed.length = 2 ∧
          t.engine.allPending = [Script.fragment 6] ∧
          (ledger t.world.2).failed.length = 2 ∧
          (ledger t.world.2).released.length = 1 := by
    decide +kernel
  rcases hLast with
    ⟨t, hPoll, hFlushed, hPending, hFailed, hReleased⟩
  refine ⟨t, hPoll, hFlushed, hPending, hFailed, hReleased, ?_⟩
  rw [mixedRun] at hPoll
  exact accounted_of_run Script.world Script.settings 9
    Script.mixed t hPoll

end FragmentSink
