import FragmentSink.Proofs.Engine.Outlines
import FragmentSink.Proofs.Engine.Rounds

/-
  The order in which workers are visited does not matter.

  In a steady world a visit has an effect on the outline of
  the engine that depends on the worker alone.  A round is the
  effects of its visits one after the other, and as effects
  commute, rounds in any two orders end with one outline.

  Main declarations:
    * `Round.effect`
    * `Meets`
    * `InTurn.meets`
    * `outline_eq_of_orders`
-/

namespace FragmentSink

variable {σ : Type}
variable {p q : PartitionKey}
variable {w w' : Worker}
variable {h h' calls : History}
variable {m m₁ m' : Moment}
variable {r : Except Stop Unit}
variable {now : Timestamp}
variable {answer : Fragment → UploadEnd}

------------------------------------------------------------
-- Effects of Visits
------------------------------------------------------------

/- A worker is replaced, after calls that nothing else tells of. -/
def Effect.replace (w : Worker) (calls : History) : Effect where
  change l := { l with worker := some w }
  tally := .nothing
  calls := calls
  mood := .still
  fits _ := rfl

/- Whether one more failure of the partition spends its budget. -/
def Lane.spends (l : Lane) : Bool :=
  let b := (l.budget.getD (.fresh l.setup.policy)).countFailure
  b.policy.maxRetries ≤ b.failures

/- A spent budget asks to halt, whatever the noise is. -/
theorem Engine.spends_of_halt
    {e : Engine}
    {n : UInt64}
    {consecutive : UInt32}
    (hAction :
      (e.budgetOf p).countFailure.action n = .halt consecutive) :
    (e.lane p).spends = true := by
  unfold FailureBudget.action at hAction
  split at hAction
  case isTrue hSpent => exact decide_eq_true hSpent
  case isFalse => cases hAction

/- And one that is left asks to wait. -/
theorem Engine.spends_of_retry
    {e : Engine}
    {n backoff : UInt64}
    (hAction :
      (e.budgetOf p).countFailure.action n = .retry backoff) :
    (e.lane p).spends = false := by
  unfold FailureBudget.action at hAction
  split at hAction
  case isTrue => cases hAction
  case isFalse hLeft => exact decide_eq_false hLeft

namespace Round

/- Why a visit flushes a worker, if it does. -/
def reasonAt (now : Timestamp) : Round → Worker → Option FlushReason
| .ticks, w => (w.state.readinessAt now).reason
| .finalFlush, _ => some .shutdown

/- A batch is stored, and its offset is committed. -/
def storedEffect
    (w : Worker)
    (b : CommittedBatch)
    (uploads : History) : Round → Effect
| .ticks =>
    { change := fun l =>
        Lane.acknowledged { l with worker := some w }
          b.last.offset
      tally := .flushed b.reason b.fragments b.bytes
      calls := .commit b.last (.done (.ok ())) :: uploads
      mood := .recovered
      fits := fun _ => rfl }
| .finalFlush =>
    { change := fun l =>
        { l with
          worker := some w
          committed := some b.last.offset }
      tally := .flushed b.reason b.fragments b.bytes
      calls := .commit b.last (.done (.ok ())) :: uploads
      mood := .still
      fits := fun _ => rfl }

/-
  A batch fails.  A tick sends its partition back to the first
  offset of the batch, unless this spends its budget; the
  smallest offset of all cannot be tracked.
-/
def failedEffect
    (p : PartitionKey)
    (l : Lane)
    (w : Worker)
    (offset : Int64)
    (uploads : History) : Round → Except Stop Effect
| .ticks =>
    if l.spends then
      .error .halt
    else
      match Word.subInt offset 1 with
      | .error fault => .error (.fault fault)
      | .ok last =>
          .ok
            { change := fun l =>
                { Lane.failing { l with worker := some w } with
                  current := some last }
              tally := .failed
              calls := .rewind p offset (.ok ()) :: uploads
              mood := .failing
              fits := fun _ => nofun }
| .finalFlush => .ok (.replace w uploads)

/- What the visit of a partition does in a steady world, by its lane. -/
def effect
    (round : Round)
    (now : Timestamp)
    (answer : Fragment → UploadEnd)
    (p : PartitionKey)
    (l : Lane) : Except Stop Effect :=
  match l.worker with
  | none => .ok .none
  | some w =>
      match round.reasonAt now w, w.pending with
      | none, _ => .ok .none
      | some _, [] => .ok (.replace (w.renewAt now) [])
      | some reason, first :: rest =>
          if allStored answer (first :: rest) then
            .ok (round.storedEffect (w.afterCommit now)
              (w.describe first rest reason ⟨0⟩)
              (attempted answer (first :: rest)))
          else
            round.failedEffect p l (w.afterFailure first now)
              first.offset (attempted answer (first :: rest))

end Round

/- Only the smallest number has none before it. -/
theorem Word.subInt_one_eq_error
    {n : Int64}
    {fault : Fault}
    (hFault : Word.subInt n 1 = .error fault) :
    fault = .subtraction ∧ n = Int64.minValue := by
  unfold Word.subInt at hFault
  split at hFault
  case isTrue => cases hFault
  case isFalse hFits =>
    cases hFault
    refine ⟨rfl, ?_⟩
    have hLow := n.le_toInt
    have hHigh := n.toInt_lt
    have hOne : (1 : Int64).toInt = 1 := by decide
    have hMin : (Int64.minValue).toInt = -2 ^ 63 := by decide
    rw [← Int64.toInt_inj, hMin]
    unfold Word.FitsInt at hFits
    omega

namespace Round

/- A round stops at a spent budget, or at the smallest offset. -/
theorem effect_eq_error
    {round : Round}
    {l : Lane}
    {why : Stop}
    (hStop : round.effect now answer p l = .error why) :
    round = .ticks ∧
      (why = .halt ∨
        why = .fault .subtraction ∧
          ∃ w first,
            l.worker = some w ∧ w.pending.head? = some first ∧
              first.offset = Int64.minValue) := by
  unfold effect at hStop
  split at hStop
  case h_1 => cases hStop
  case h_2 w hWorker =>
    split at hStop
    case h_1 => cases hStop
    case h_2 => cases hStop
    case h_3 reason first rest hReason hPending =>
      split at hStop
      case isTrue => cases hStop
      case isFalse =>
        cases round with
        | finalFlush => cases hStop
        | ticks =>
            refine ⟨rfl, ?_⟩
            unfold failedEffect at hStop
            by_cases hSpent : l.spends = true
            · rw [if_pos hSpent] at hStop
              cases hStop
              exact .inl rfl
            · rw [if_neg hSpent] at hStop
              cases hSub : Word.subInt first.offset 1 with
              | ok last =>
                  rw [hSub] at hStop
                  cases hStop
              | error fault =>
                  rw [hSub] at hStop
                  cases hStop
                  rcases Word.subInt_one_eq_error hSub with
                    ⟨rfl, hOffset⟩
                  exact .inr ⟨rfl, w, first, hWorker,
                    by rw [hPending]; rfl, hOffset⟩

end Round

------------------------------------------------------------
-- Outlines after a Visit
------------------------------------------------------------

namespace Engine

/- A batch that is acknowledged commits the offset of its last fragment. -/
theorem lane_acknowledged
    {e : Engine}
    {b : CommittedBatch}
    (hKey : b.last.key = p) :
    (e.acknowledged b).lane p =
      { e.lane p with committed := some b.last.offset } := by
  simp [lane, acknowledged, setup, hKey,
    OffsetTracker.markCommitted, OffsetTracker.current?,
    OffsetTracker.committed?]

/- A partition that recovers reports it if no other is failing. -/
theorem status?_recovered
    (e : Engine)
    (p : PartitionKey) :
    (e.recovered p).health.status? =
      Mood.recovered.report (Calm (e.recovered p).lane)
        e.health.status? := by
  have hFailures :
      (e.recovered p).failures = e.failures.erase p := by
    simp only [recovered]
    split <;> rfl
  have hCalm :
      Calm (e.recovered p).lane ↔
        (e.failures.erase p).isEmpty = true := by
    rw [Table.isEmpty_iff, ← hFailures]
    exact Iff.rfl
  unfold Mood.report
  by_cases hEmpty : (e.failures.erase p).isEmpty = true
  · have hHealth :
        (e.recovered p).health =
          (e.health.mark .storage .healthy).mark .buffer
            .healthy := by
      simp only [recovered, hEmpty, if_true]
      rfl
    simp only [if_pos (hCalm.mpr hEmpty), hHealth,
      Health.status?_mark]
    rfl
  · have hHealth : (e.recovered p).health = e.health := by
      simp only [recovered, hEmpty]
      rfl
    simp only [if_neg fun hAll => hEmpty (hCalm.mp hAll), hHealth]

@[simp] theorem running_recovered
    (e : Engine)
    (p : PartitionKey) :
    (e.recovered p).health.running = e.health.running := by
  simp only [recovered]
  split <;> rfl

theorem status?_failing
    (e : Engine)
    (p : PartitionKey)
    (elapsed : Span) :
    (e.failing p elapsed).health.status? =
      Statuses.markBoth e.health.status? retrying awaiting := by
  simp only [failing, awaitingRedelivery, mark,
    Health.status?_mark]
  rfl

end Engine

/- A visit that only touches its partition applies its effect. -/
theorem Round.Visits.outline_of
    {round : Round}
    {x : Effect}
    (hVisit : round.Visits p m r m')
    (hEngine : m.engine.Keyed)
    (hLane : m'.engine.lane p = x.change (m.engine.lane p))
    (hMetrics :
      m'.engine.metrics.timeless =
        x.tally.apply m.engine.metrics.timeless)
    (hStatuses :
      m'.engine.health.status? =
        x.mood.report (Calm m'.engine.lane)
          m.engine.health.status?)
    (hRunning :
      m'.engine.health.running = m.engine.health.running)
    (hCalls :
      m'.history.callsFor p = x.calls ++ m.history.callsFor p) :
    m'.outline = m.outline.apply p x := by
  have hLanes :
      m'.engine.lane =
        Function.update m.engine.lane p
          (x.change (m.engine.lane p)) := by
    funext q
    by_cases hKey : q = p
    · subst hKey
      rw [Function.update_self, hLane]
    · rw [Function.update_of_ne hKey]
      exact (hVisit.apart hEngine (Ne.symm hKey)).lane_eq
        hVisit.setup_eq
  have hAllCalls :
      (fun q => m'.history.callsFor q) =
        Function.update (fun q => m.history.callsFor q) p
          (x.calls ++ m.history.callsFor p) := by
    funext q
    by_cases hKey : q = p
    · subst hKey
      rw [Function.update_self, hCalls]
    · rw [Function.update_of_ne hKey]
      exact History.callsFor_of_beside
        (hVisit.apart hEngine (Ne.symm hKey)).events
  rw [hLanes] at hStatuses
  exact Outline.ext hLanes hMetrics hStatuses hRunning hAllCalls

------------------------------------------------------------
-- Visits in a Steady World
------------------------------------------------------------

/- How a visit ends and what it leaves, given its effect. -/
def Meets
    (p : PartitionKey)
    (m : Moment)
    (r : Except Stop Unit)
    (m' : Moment) : Except Stop Effect → Prop
| .ok x => r = .ok () ∧ m'.outline = m.outline.apply p x
| .error why => r = .error why

namespace Round

variable {round : Round}
variable {l : Lane}
variable {reason : FlushReason}
variable {first : Fragment}
variable {rest : List Fragment}

theorem effect_of_none
    (hWorker : l.worker = none) :
    round.effect now answer p l = .ok .none := by
  simp [effect, hWorker]

theorem effect_of_idle
    (hWorker : l.worker = some w)
    (hReason : round.reasonAt now w = none) :
    round.effect now answer p l = .ok .none := by
  simp [effect, hWorker, hReason]

theorem effect_of_empty
    (hWorker : l.worker = some w)
    (hReason : round.reasonAt now w = some reason)
    (hPending : w.pending = []) :
    round.effect now answer p l =
      .ok (.replace (w.renewAt now) []) := by
  simp [effect, hWorker, hReason, hPending]

theorem effect_of_stored
    (hWorker : l.worker = some w)
    (hReason : round.reasonAt now w = some reason)
    (hPending : w.pending = first :: rest)
    (hStored : allStored answer (first :: rest) = true) :
    round.effect now answer p l =
      .ok (round.storedEffect (w.afterCommit now)
        (w.describe first rest reason ⟨0⟩)
        (attempted answer (first :: rest))) := by
  simp [effect, hWorker, hReason, hPending, hStored]

theorem effect_of_failed
    (hWorker : l.worker = some w)
    (hReason : round.reasonAt now w = some reason)
    (hPending : w.pending = first :: rest)
    (hFailed : allStored answer (first :: rest) = false) :
    round.effect now answer p l =
      round.failedEffect p l (w.afterFailure first now)
        first.offset (attempted answer (first :: rest)) := by
  simp [effect, hWorker, hReason, hPending, hFailed]

end Round

/- A replaced worker is all that a visit without an outcome leaves. -/
theorem Round.Visits.meets_replace
    {round : Round}
    (hVisit :
      round.Visits p m (.ok ()) ⟨m.engine.putWorker p w', h'⟩)
    (hEngine : m.engine.Keyed)
    (hCalls : h'.callsFor p = calls ++ m.history.callsFor p) :
    Meets p m (.ok ()) ⟨m.engine.putWorker p w', h'⟩
      (.ok (.replace w' calls)) :=
  ⟨rfl, hVisit.outline_of hEngine
    ((Engine.changes_putWorker p w').own m.engine) rfl rfl rfl
    hCalls⟩

/- A durable batch is acknowledged, as the source agrees to it. -/
theorem Settled.meets_stored
    {elapsed : Span}
    {b : CommittedBatch}
    (hSettled :
      Settled p elapsed ⟨m.engine.putWorker p w', h'⟩
        (.committed b) r m')
    (hVisit : Round.ticks.Visits p m r m')
    (hEngine : m.engine.Keyed)
    (hSteady : Steadily now answer h' m'.history)
    (hKey : b.last.key = p)
    (hCalls : h'.callsFor p = calls ++ m.history.callsFor p) :
    Meets p m r m'
      (.ok (Round.ticks.storedEffect w' b calls)) := by
  cases hSettled with
  | lost => cases (hSteady.of_cons List.suffix_rfl).1
  | unacknowledged => cases (hSteady.of_cons List.suffix_rfl).1
  | acknowledged =>
      refine ⟨rfl, hVisit.outline_of hEngine ?_ ?_ ?_ ?_ ?_⟩
      · rw [(Engine.changes_acknowledged hKey).own,
          (Engine.changes_putWorker p _).own]
        rfl
      · rw [Engine.metrics_recovered]
        exact Metrics.timeless_recordFlush _ _ _ _ _
      · exact Engine.status?_recovered _ p
      · exact Engine.running_recovered _ p
      · rw [History.callsFor_commit _ hKey, hCalls]
        rfl

/- A failed batch is awaited again, or its budget is spent. -/
theorem Settled.meets_failed
    {elapsed : Span}
    {offset : Int64}
    (hSettled :
      Settled p elapsed ⟨m.engine.putWorker p w', h'⟩ .failed r m')
    (hVisit : Round.ticks.Visits p m r m')
    (hEngine : m.engine.Keyed)
    (hSteady : Steadily now answer h' m'.history)
    (hRedelivery : w'.redelivery = some offset)
    (hCalls : h'.callsFor p = calls ++ m.history.callsFor p) :
    Meets p m r m'
      (Round.ticks.failedEffect p (m.engine.lane p) w' offset
        calls) := by
  have hFirst :
      (m.engine.putWorker p w').redeliveryOf p = some offset :=
    (m.engine.redeliveryOf_putWorker p w').trans hRedelivery
  cases hSettled with
  | halted n consecutive hAction =>
      have hSpent : (m.engine.lane p).spends = true :=
        Engine.spends_of_halt hAction
      rw [Round.failedEffect, if_pos hSpent]
      rfl
  | unsent => cases (hSteady.of_cons (List.suffix_cons _ _)).1
  | untracked n backoff offset fault hAction hOffset hFault =>
      have hLeft : (m.engine.lane p).spends = false :=
        Engine.spends_of_retry hAction
      cases hFirst.symm.trans hOffset
      have hSub := OffsetTracker.subInt_of_rewind hFault
      simp only [Round.failedEffect, hLeft, hSub]
      rfl
  | waited n backoff offset offsets a hAction hOffset hOffsets =>
      have hLeft : (m.engine.lane p).spends = false :=
        Engine.spends_of_retry hAction
      cases hFirst.symm.trans hOffset
      cases (hSteady.of_cons
        ((List.suffix_cons _ _).trans (List.suffix_cons _ _))).1
      rcases OffsetTracker.rewind_eq_ok hOffsets with
        ⟨last, hSub, rfl⟩
      simp only [Round.failedEffect, hLeft, hSub]
      refine ⟨rfl, hVisit.outline_of hEngine ?_ ?_ ?_ rfl ?_⟩
      · have hResumed :=
          (Engine.changes_resuming p last).own
            ((m.engine.putWorker p w').failing p elapsed)
        rw [(Engine.changes_failing p elapsed).own,
          (Engine.changes_putWorker p _).own] at hResumed
        exact hResumed
      · exact Metrics.timeless_recordCommitFailure _ _
      · exact Engine.status?_failing _ p elapsed
      · change History.callsFor p
          (.rewind p offset (.ok ()) :: _) = _
        rw [History.callsFor_rewind offset]
        exact congrArg _ hCalls

/- A tick in a steady world has its effect. -/
theorem Worked.meets
    (hWorked : Worked p w m r m')
    (hWorker : m.engine.workers.get? p = some w)
    (hEngine : m.engine.Keyed)
    (hSteady : Steadily now answer m.history m'.history) :
    Meets p m r m'
      (Round.ticks.effect now answer p (m.engine.lane p)) := by
  have hKeyed := hEngine p w hWorker
  have hLane : (m.engine.lane p).worker = some w := hWorker
  have hVisit : Round.ticks.Visits p m r m' :=
    .served hWorker hWorked
  cases hWorked with
  | cut hTicked =>
      cases hTicked with
      | ready n reason hReason hFlushed =>
          have hSplit := hSteady.split (List.suffix_cons (.clock n)
            m.history) hFlushed.calls.suffix
          rcases hFlushed.steady hKeyed hSplit.2 with
            ⟨uploads, hFlush, -⟩
          cases hFlush
  | @settled ending w' h' r m' elapsed hTicked hAnswer hSettled =>
      have hParts :=
        hSteady.split hTicked.calls.suffix hSettled.calls.suffix
      cases hTicked with
      | idle n hReason =>
          cases (hParts.1.of_cons List.suffix_rfl).1
          cases hSettled
          have hReasonAt : Round.reasonAt now .ticks w = none :=
            hReason
          rw [Round.effect_of_idle hLane hReasonAt]
          refine ⟨rfl, hVisit.outline_of hEngine ?_ rfl rfl rfl
            rfl⟩
          rw [(Engine.changes_putWorker p _).own]
          simp [Effect.none, Engine.lane, hWorker]
      | ready n reason hReason hFlushed =>
          have hSplit := hParts.1.split
            (List.suffix_cons (.clock n) m.history)
            hFlushed.calls.suffix
          cases (hSplit.1.of_cons List.suffix_rfl).1
          rcases hFlushed.steady hKeyed hSplit.2 with
            ⟨uploads, hFlush, hUploads⟩
          have hCalls :
              h'.callsFor p = uploads ++ m.history.callsFor p :=
            hUploads
          have hReasonAt :
              Round.reasonAt now .ticks w = some reason :=
            hReason
          cases hFlush with
          | empty hPending =>
              cases hSettled
              rw [Round.effect_of_empty hLane hReasonAt hPending]
              exact hVisit.meets_replace hEngine hCalls
          | durable first rest duration hPending hStored =>
              rw [Round.effect_of_stored hLane hReasonAt hPending
                hStored]
              exact hSettled.meets_stored hVisit hEngine hParts.2
                (hFlushed.last_key hKeyed) hCalls
          | failed first rest hPending hFailed =>
              rw [Round.effect_of_failed hLane hReasonAt hPending
                hFailed]
              exact hSettled.meets_failed hVisit hEngine hParts.2
                rfl hCalls

/- The final flush of a partition does too. -/
theorem FlushedOut.meets
    (hOut : FlushedOut p m r m')
    (hEngine : m.engine.Keyed)
    (hSteady : Steadily now answer m.history m'.history) :
    Meets p m r m'
      (Round.finalFlush.effect now answer p (m.engine.lane p)) := by
  have hVisit
      {w : Worker}
      (hWorker : m.engine.workers.get? p = some w) :
      Round.finalFlush.Visits p m r m' :=
    .served hWorker hOut
  have hReason (w : Worker) :
      Round.reasonAt now .finalFlush w = some .shutdown := rfl
  cases hOut with
  | @unstored w w' h' ending hWorker hFlushed hAnswer =>
      have hLane : (m.engine.lane p).worker = some w := hWorker
      rcases hFlushed.steady (hEngine p w hWorker) hSteady with
        ⟨uploads, hFlush, hCalls⟩
      cases hFlush with
      | empty hPending =>
          rw [Round.effect_of_empty hLane (hReason w) hPending]
          exact (hVisit hWorker).meets_replace hEngine hCalls
      | durable =>
          rcases hAnswer with hAnswer | hAnswer <;> cases hAnswer
      | failed first rest hPending hFailed =>
          rw [Round.effect_of_failed hLane (hReason w) hPending
            hFailed]
          exact (hVisit hWorker).meets_replace hEngine hCalls
  | cut hWorker hFlushed =>
      rcases hFlushed.steady (hEngine p _ hWorker) hSteady with
        ⟨uploads, hFlush, -⟩
      cases hFlush
  | @acknowledged w w' h' b hWorker hFlushed =>
      have hLane : (m.engine.lane p).worker = some w := hWorker
      have hKeyed := hEngine p w hWorker
      have hKey := hFlushed.last_key hKeyed
      have hUploads := hSteady.of_cons hFlushed.calls.suffix
      rcases hFlushed.steady hKeyed hUploads.2 with
        ⟨uploads, hFlush, hCalls⟩
      cases hFlush with
      | durable first rest duration hPending hStored =>
          rw [Round.effect_of_stored hLane (hReason w) hPending
            hStored]
          refine ⟨rfl, (hVisit hWorker).outline_of hEngine ?_ ?_ rfl
            rfl ?_⟩
          · rw [Engine.lane_acknowledged hKey,
              (Engine.changes_putWorker p _).own]
            rfl
          · exact Metrics.timeless_recordFlush _ _ _ _ _
          · rw [History.callsFor_commit _ hKey, hCalls]
            rfl
  | unacknowledged cause hWorker hFlushed =>
      cases (hSteady.of_cons hFlushed.calls.suffix).1
  | lost hWorker hFlushed =>
      cases (hSteady.of_cons hFlushed.calls.suffix).1

theorem Round.Visits.meets
    {round : Round}
    (hVisit : round.Visits p m r m')
    (hEngine : m.engine.Keyed)
    (hSteady : Steadily now answer m.history m'.history) :
    Meets p m r m'
      (round.effect now answer p (m.engine.lane p)) := by
  cases hVisit with
  | passed hNone =>
      rw [Round.effect_of_none hNone]
      exact ⟨rfl, (Outline.apply_none _).symm⟩
  | served hWorker hServes =>
      cases round with
      | ticks => exact Worked.meets hServes hWorker hEngine hSteady
      | finalFlush => exact FlushedOut.meets hServes hEngine hSteady

------------------------------------------------------------
-- Rounds in a Steady World
------------------------------------------------------------

/- The effect of a visit that is not stopped. -/
def Round.effectOf
    (round : Round)
    (now : Timestamp)
    (answer : Fragment → UploadEnd)
    (e : Engine)
    (p : PartitionKey) : Effect :=
  (round.effect now answer p (e.lane p)).toOption.getD .none

/-
  A round applies the effects that the visits have at its
  start, or it is stopped as one of them says.
-/
theorem InTurn.meets
    {round : Round}
    {ps : List PartitionKey}
    (hTurn : InTurn round ps m r m')
    (hEngine : m.engine.Keyed)
    (hNodup : ps.Nodup)
    (hSteady : Steadily now answer m.history m'.history) :
    r = .ok () ∧
        (∀ p ∈ ps, ∃ x,
          round.effect now answer p (m.engine.lane p) = .ok x) ∧
        m'.outline =
          ps.foldl
            (fun o p =>
              o.apply p (round.effectOf now answer m.engine p))
            m.outline ∨
      ∃ p ∈ ps, ∃ why,
        round.effect now answer p (m.engine.lane p) =
            .error why ∧
          r = .error why := by
  induction hTurn with
  | done m => exact .inl ⟨rfl, nofun, rfl⟩
  | @stopped p ps m m' why hVisit =>
      have hMeets := hVisit.meets hEngine hSteady
      cases hEffect :
          round.effect now answer p (m.engine.lane p) with
      | ok x =>
          rw [hEffect] at hMeets
          cases hMeets.1
      | error why' =>
          rw [hEffect] at hMeets
          exact .inr ⟨p, List.mem_cons_self, why', hEffect, hMeets⟩
  | @go p ps m m₁ m' r hVisit hRest ih =>
      have hParts := hSteady.split hVisit.extends hRest.extends
      have hMeets := hVisit.meets hEngine hParts.1
      rw [List.nodup_cons] at hNodup
      -- what is left to visit is as it was at the start
      have hLane : ∀ q ∈ ps, m₁.engine.lane q = m.engine.lane q := by
        intro q hLater
        have hOther : p ≠ q := fun hSame =>
          hNodup.1 (hSame ▸ hLater)
        exact (hVisit.apart hEngine hOther).lane_eq hVisit.setup_eq
      cases hEffect :
          round.effect now answer p (m.engine.lane p) with
      | error why =>
          rw [hEffect] at hMeets
          cases hMeets
      | ok x =>
          rw [hEffect] at hMeets
          rcases ih (hVisit.keyed hEngine) hNodup.2 hParts.2 with
            ⟨hEnd, hEffects, hOutline⟩ | ⟨q, hLater, why, hStop, hEnd⟩
          · refine .inl ⟨hEnd, ?_, ?_⟩
            · rw [List.forall_mem_cons]
              refine ⟨⟨x, hEffect⟩, fun q hLater => ?_⟩
              rw [← hLane q hLater]
              exact hEffects q hLater
            · have hHere :
                  round.effectOf now answer m.engine p = x := by
                rw [Round.effectOf, hEffect]
                rfl
              rw [hOutline, List.foldl_cons, hHere, ← hMeets.2]
              apply List.foldl_ext
              intro o q hLater
              rw [Round.effectOf, hLane q hLater]
              rfl
          · rw [hLane q hLater] at hStop
            exact .inr ⟨q, List.mem_cons_of_mem p hLater, why, hStop,
              hEnd⟩

/-
  Two rounds from one engine, in steady worlds that answer the
  same and visit the workers in any two orders.  Unless the
  first spends a failure budget, they leave the same workers,
  offsets, budgets, metrics and statuses behind, and make the
  same calls for every partition; or neither comes to an end,
  as a partition would have to be sent back to the smallest
  offset of all.
-/
theorem outline_eq_of_orders
    {σ₁ σ₂ : Type}
    (round : Round)
    (world₁ : World σ₁)
    (world₂ : World σ₂)
    (start₁ : σ₁)
    (start₂ : σ₂)
    (e : Engine)
    (h : History)
    (now : Timestamp)
    (answer : Fragment → UploadEnd)
    {r₁ r₂ : Except Stop Unit}
    {t₁ : Session (σ₁ × History)}
    {t₂ : Session (σ₂ × History)}
    (hEngine : e.Keyed)
    (hRun₁ :
      (round.run world₁.recorded).run.run ⟨e, start₁, h⟩ =
        (r₁, t₁))
    (hRun₂ :
      (round.run world₂.recorded).run.run ⟨e, start₂, h⟩ =
        (r₂, t₂))
    (hSteady₁ : Steadily now answer h t₁.world.2)
    (hSteady₂ : Steadily now answer h t₂.world.2)
    (hSpared : r₁ ≠ .error .halt) :
    r₁ = .ok () ∧ r₂ = .ok () ∧
        t₁.moment.outline = t₂.moment.outline ∨
      round = .ticks ∧
        r₁ = .error (.fault .subtraction) ∧ r₂ ≠ .ok () ∧
        ∃ p first,
          (e.pendingOf p).head? = some first ∧
            first.offset = Int64.minValue := by
  rcases (round.ends_run world₁ ⟨e, start₁, h⟩).of_run hRun₁ with
    ⟨ps₁, hPerm₁, hTurn₁⟩
  rcases (round.ends_run world₂ ⟨e, start₂, h⟩).of_run hRun₂ with
    ⟨ps₂, hPerm₂, hTurn₂⟩
  have hNodup : e.workers.keys.Nodup := e.workers.nodup
  have hMeets₁ :=
    hTurn₁.meets hEngine (hPerm₁.nodup_iff.mpr hNodup) hSteady₁
  have hMeets₂ :=
    hTurn₂.meets hEngine (hPerm₂.nodup_iff.mpr hNodup) hSteady₂
  have hPerm := hPerm₁.trans hPerm₂.symm
  rcases hMeets₁ with
    ⟨hEnd₁, hEffects₁, hOutline₁⟩ | ⟨p, hIn₁, why, hStop, hEnd₁⟩
  · rcases hMeets₂ with
      ⟨hEnd₂, -, hOutline₂⟩ | ⟨p, hIn₂, why, hStop, -⟩
    · refine .inl ⟨hEnd₁, hEnd₂, ?_⟩
      rw [hOutline₁, hOutline₂]
      exact Outline.foldl_perm hPerm _ _
    · rcases hEffects₁ p (hPerm.mem_iff.mpr hIn₂) with ⟨x, hEffect⟩
      cases hEffect.symm.trans hStop
  · rcases Round.effect_eq_error hStop with
      ⟨hRound, rfl | ⟨rfl, w, first, hWorker, hHead, hOffset⟩⟩
    · exact absurd hEnd₁ hSpared
    · refine .inr ⟨hRound, hEnd₁, ?_, p, first, ?_, hOffset⟩
      · rintro rfl
        rcases hMeets₂ with
          ⟨-, hEffects₂, -⟩ | ⟨q, -, why, -, hEnd₂⟩
        · rcases hEffects₂ p (hPerm.mem_iff.mp hIn₁) with
            ⟨x, hEffect⟩
          cases hEffect.symm.trans hStop
        · cases hEnd₂
      · have hWorker : e.workers.get? p = some w := hWorker
        simpa [Engine.pendingOf, hWorker] using hHead

/- Three buffers that wait, the first two with two fragments. -/
@[irreducible] def waitingSteps :
    Except Stop Unit × Session (Script × History) :=
  (Engine.stepping Script.world.recorded 5).run.run
    ⟨(Engine.fresh roomySettings).started, Script.several, []⟩

/- A storage that refuses one fragment. -/
def refusingOne (f : Fragment) : UploadEnd :=
  if f.token = ⟨⟨"logs", 1⟩, 4⟩ then .refused else .stored

/- A time at which all three buffers are due. -/
def dueTime : Timestamp :=
  ⟨2000000000⟩

/- The script's world at that time, with such a storage. -/
def dueWorld : World Script :=
  { Script.world with
    now := fun s => (dueTime, s)
    upload := fun f s => (refusingOne f, s) }

/- The same world, but workers are visited backwards. -/
def backwardWorld : World Script :=
  { dueWorld with
    visitOrder := fun ps s => (⟨ps.reverse, ps.reverse_perm⟩, s) }

/- A round through the three workers in that world. -/
@[irreducible] def forwardRound (round : Round) :
    Except Stop Unit × Session (Script × History) :=
  (round.run dueWorld.recorded).run.run
    ⟨waitingSteps.2.engine, Script.several, []⟩

/- The same round backwards. -/
@[irreducible] def backwardRound (round : Round) :
    Except Stop Unit × Session (Script × History) :=
  (round.run backwardWorld.recorded).run.run
    ⟨waitingSteps.2.engine, Script.several, []⟩

/-
  In either round, two partitions are stored and the one
  between them fails; either of the two may be the last to be
  acknowledged.
-/
theorem outline_eq_of_backwards :
    (forwardRound .ticks).2.engine.metrics.commitFailures = 1 ∧
      ∀ round,
        (forwardRound round).1 = .ok () ∧
          (backwardRound round).1 = .ok () ∧
          (forwardRound round).2.world.2.head? =
            some (.commit ⟨⟨"logs", 2⟩, 3⟩ (.done (.ok ()))) ∧
          (backwardRound round).2.world.2.head? =
            some (.commit ⟨⟨"logs", 0⟩, 4⟩ (.done (.ok ()))) ∧
          (forwardRound round).2.engine.metrics.flushes = 2 ∧
          (forwardRound round).2.moment.outline =
            (backwardRound round).2.moment.outline := by
  -- The kernel does not sort the partitions whose lags are added.
  have hWaiting : waitingSteps.1 = .ok () := by
    unfold waitingSteps
    cbv
  have hFailures :
      (forwardRound .ticks).2.engine.metrics.commitFailures =
        1 := by
    unfold forwardRound waitingSteps
    cbv
  have hFacts (round : Round) :
      (forwardRound round).1 = .ok () ∧
        (backwardRound round).1 = .ok () ∧
        (forwardRound round).2.world.2.head? =
          some (.commit ⟨⟨"logs", 2⟩, 3⟩ (.done (.ok ()))) ∧
        (backwardRound round).2.world.2.head? =
          some (.commit ⟨⟨"logs", 0⟩, 4⟩ (.done (.ok ()))) ∧
        (forwardRound round).2.engine.metrics.flushes = 2 ∧
        ((forwardRound round).2.world.2.all fun e =>
          Event.Steady dueTime refusingOne e) = true ∧
        ((backwardRound round).2.world.2.all fun e =>
          Event.Steady dueTime refusingOne e) = true := by
    unfold forwardRound backwardRound waitingSteps
    cases round with
    | ticks => cbv
    | finalFlush => cbv
  refine ⟨hFailures, fun round => ?_⟩
  rcases hFacts round with
    ⟨hForward, hBackward, hLast, hLast', hFlushes, hSteady,
      hSteady'⟩
  refine ⟨hForward, hBackward, hLast, hLast', hFlushes, ?_⟩
  have hWaits :
      (Engine.stepping Script.world.recorded 5).run.run
          ⟨(Engine.fresh roomySettings).started, Script.several,
            []⟩ =
        (.ok (), waitingSteps.2) := by
    rw [← hWaiting, Prod.eta, waitingSteps]
  have hSpared : (forwardRound round).1 ≠ .error .halt := by
    rw [hForward]
    exact ok_ne_halt
  have hKeyed : (Engine.fresh roomySettings).started.Keyed := by
    intro p w hFound
    cases hFound
  have hForwards :
      (round.run dueWorld.recorded).run.run
          ⟨waitingSteps.2.engine, Script.several, []⟩ =
        ((forwardRound round).1, (forwardRound round).2) := by
    rw [Prod.eta, forwardRound]
  have hBackwards :
      (round.run backwardWorld.recorded).run.run
          ⟨waitingSteps.2.engine, Script.several, []⟩ =
        ((backwardRound round).1, (backwardRound round).2) := by
    rw [Prod.eta, backwardRound]
  rcases outline_eq_of_orders round dueWorld backwardWorld
      Script.several Script.several waitingSteps.2.engine []
      dueTime refusingOne
      ((reaches_stepping Script.world 5 hWaits).keyed hKeyed)
      hForwards hBackwards
      ⟨_, (List.append_nil _).symm,
        fun e he =>
          of_decide_eq_true (List.all_eq_true.mp hSteady e he)⟩
      ⟨_, (List.append_nil _).symm,
        fun e he =>
          of_decide_eq_true (List.all_eq_true.mp hSteady' e he)⟩
      hSpared with
    ⟨-, -, hOutline⟩ | ⟨-, -, hUnended, -⟩
  · exact hOutline
  · exact absurd hBackward hUnended

end FragmentSink
