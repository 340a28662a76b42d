import FragmentSink.Proofs.Engine.Lanes
import FragmentSink.Proofs.Engine.Replay

/-
  Engines that serve one partition as another serves many.

  An engine with a partition to itself that hears what happened
  to the partition among others makes the same calls, and ends
  with the same lane.  Only the durations of flushes differ,
  and they are in no lane.

  Main declarations:
    * `Copies`
    * `Settled.copied`
    * `Worked.copied`
    * `copies_ingest`
    * `copies_tickAll`
-/

namespace FragmentSink

------------------------------------------------------------
-- Outcomes of Flushes
------------------------------------------------------------

/-
  What an activity does from one moment to the next, another
  one does alone: it hears the events that were added, makes
  the same calls and ends with the same lane.
-/
def Copies
    (p : PartitionKey)
    (x : Activity (List Event × History) Unit)
    (alone : Engine)
    (m : Moment)
    (r : Except Stop Unit)
    (m' : Moment) : Prop :=
  ∃ es alone',
    m'.history = es.reverse ++ m.history ∧
      Replays x alone es r alone' ∧
      Mirrors p m'.engine alone'

section Copies

variable {p : PartitionKey}
variable {alone : Engine}
variable {w w' : Worker}
variable {m m₁ m' : Moment}
variable {r : Except Stop Unit}
variable {answer : FlushEnd}
variable {elapsed : Span}

/- A partition is sent back alone as far as among others. -/
theorem replays_sendBack
    {offset last : Int64}
    (p : PartitionKey)
    (alone : Engine)
    (hLast : Word.subInt offset 1 = .ok last) :
    Replays (Engine.sendBack Replay.world.recorded p offset) alone
      [.rewind p offset (.ok ())] (.ok ())
      (alone.resuming p last) := by
  have hOffsets :
      alone.offsets.rewind p offset =
        .ok
          { alone.offsets with
            current := alone.offsets.current.insert p last } := by
    rw [OffsetTracker.rewind, hLast]
    rfl
  unfold Engine.sendBack
  refine (replays_rewind _ p offset (.ok ())).heard ?_
  refine .silent (a := ()) (fun _ _ => rfl) ?_
  refine (replays_engine _).silent ?_
  rw [hOffsets]
  exact fun _ _ => rfl

theorem replays_sendBack_fault
    {offset : Int64}
    {fault : Fault}
    (p : PartitionKey)
    (alone : Engine)
    (hFault : Word.subInt offset 1 = .error fault) :
    Replays (Engine.sendBack Replay.world.recorded p offset) alone
      [.rewind p offset (.ok ())] (.error (.fault fault))
      alone := by
  have hOffsets :
      alone.offsets.rewind p offset = .error fault := by
    rw [OffsetTracker.rewind, hFault]
    rfl
  unfold Engine.sendBack
  refine (replays_rewind _ p offset (.ok ())).heard ?_
  refine .silent (a := ()) (fun _ _ => rfl) ?_
  refine (replays_engine _).silent ?_
  rw [hOffsets]
  exact fun _ _ => rfl

/- A failed batch is handled by what its budget asks for. -/
theorem replays_handleFailed_retry
    {n backoff : UInt64}
    {offset : Int64}
    {es : List Event}
    {alone' : Engine}
    (hAction :
      (alone.budgetOf p).countFailure.action n = .retry backoff)
    (hOffset : alone.redeliveryOf p = some offset)
    (hRest :
      Replays
        (do
          Engine.sendBack Replay.world.recorded p offset
          Activity.await
            (Replay.world.recorded.sleep
              (.ofMillis backoff.toNat)))
        (alone.failing p elapsed) es r alone') :
    Replays
      (Engine.handleFailed Replay.world.recorded p elapsed)
      alone (.noise n :: es) r alone' := by
  unfold Engine.handleFailed
  refine (replays_update _ _).silent ?_
  refine (replays_noise _ n).heard ?_
  refine (replays_engine _).silent ?_
  rw [Engine.budgetOf_noteFailure, hAction]
  refine (replays_update _ _).silent ?_
  refine (replays_engine _).silent ?_
  have hFound :
      (alone.failing p elapsed).redeliveryOf p = some offset :=
    hOffset
  unfold Engine.failing at hFound hRest
  rw [hFound]
  exact hRest

theorem replays_handleFailed_halt
    {n : UInt64}
    {consecutive : UInt32}
    (hAction :
      (alone.budgetOf p).countFailure.action n =
        .halt consecutive) :
    Replays
      (Engine.handleFailed Replay.world.recorded p elapsed)
      alone [.noise n] (.error (.failed .bufferCommitFailed))
      ((alone.noteFailure p elapsed).mark .storage
        (Engine.exhausted consecutive)) := by
  unfold Engine.handleFailed
  refine (replays_update _ _).silent ?_
  refine (replays_noise _ n).heard ?_
  refine (replays_engine _).silent ?_
  rw [Engine.budgetOf_noteFailure, hAction]
  exact fun _ _ => rfl

/- The outcome of a flush is settled alone as it was among others. -/
theorem Settled.copied
    {duration : Span}
    (took : Span)
    (hSettled : Settled p elapsed m answer r m')
    (hMirrors : Mirrors p m.engine alone)
    (hLast : ∀ b, answer = .committed b → b.last.key = p) :
    Copies p
      (Engine.handleOutcome Replay.world.recorded p took
        (answer.timed duration))
      alone m r m' := by
  have hFailing :
      Mirrors p (m.engine.failing p elapsed)
        (alone.failing p took) :=
    hMirrors.change (Engine.changes_failing p elapsed)
      (Engine.changes_failing p took)
  cases hSettled with
  | nothing => exact ⟨[], alone, rfl, fun _ _ => rfl, hMirrors⟩
  | acknowledged b =>
      have hKey := hLast b rfl
      refine ⟨[.commit b.last (.done (.ok ()))],
        (alone.acknowledged
            { b with duration := duration }).recovered p,
        rfl, fun _ _ => rfl, ?_⟩
      exact hMirrors.change
        (Engine.changes_acknowledged hKey)
        (Engine.changes_acknowledged
          (b := { b with duration := duration }) hKey)
  | unacknowledged b cause =>
      refine ⟨[.commit b.last (.done (.error cause))],
        (alone.count (·.recordError .kafka)).mark .kafka
          (Engine.commitTrouble cause),
        rfl, fun _ _ => rfl, ?_⟩
      exact hMirrors.of_lanes_eq rfl fun _ => rfl
  | lost b =>
      exact ⟨[.commit b.last .dropped], alone, rfl,
        fun _ _ => rfl, hMirrors⟩
  | halted n consecutive hAction =>
      rw [← hMirrors.budgetOf_eq] at hAction
      refine ⟨[.noise n], _, rfl,
        replays_handleFailed_halt hAction, ?_⟩
      exact hFailing.of_lanes_eq rfl fun _ => rfl
  | unsent n backoff offset cause hAction hOffset =>
      rw [← hMirrors.budgetOf_eq] at hAction
      rw [← hMirrors.redeliveryOf_eq] at hOffset
      refine ⟨[.noise n, .rewind p offset (.error cause)], _, rfl,
        replays_handleFailed_retry hAction hOffset ?_, hFailing⟩
      exact fun _ _ => rfl
  | untracked n backoff offset fault hAction hOffset hFault =>
      rw [← hMirrors.budgetOf_eq] at hAction
      rw [← hMirrors.redeliveryOf_eq] at hOffset
      refine ⟨[.noise n, .rewind p offset (.ok ())], _, rfl,
        replays_handleFailed_retry hAction hOffset ?_, hFailing⟩
      exact (replays_sendBack_fault p _
        (OffsetTracker.subInt_of_rewind hFault)).stop
  | waited n backoff offset offsets slept hAction hOffset hOffsets =>
      rw [← hMirrors.budgetOf_eq] at hAction
      rw [← hMirrors.redeliveryOf_eq] at hOffset
      rcases OffsetTracker.rewind_eq_ok hOffsets with
        ⟨last, hLast, rfl⟩
      refine ⟨[.noise n, .rewind p offset (.ok ()),
          .sleep (.ofMillis backoff.toNat) slept], _, rfl,
        replays_handleFailed_retry hAction hOffset
          ((replays_sendBack p _ hLast).heard
            (replays_sleep _ _ slept)), ?_⟩
      exact hFailing.change (Engine.changes_resuming p last)
        (Engine.changes_resuming p last)

------------------------------------------------------------
-- Workers and Parts of a Step
------------------------------------------------------------

/- A worker that is run alone is kept as it was among others. -/
theorem replays_runWorker
    (p : PartitionKey)
    (alone : Engine)
    {f :
      Worker → List Event × History →
        Except Fault (FlushEnd × Worker × (List Event × History))}
    {es : List Event}
    (hRun :
      ∀ later g,
        f w (es ++ later, g) =
          .ok (answer, w', later, es.reverse ++ g)) :
    Replays (Engine.runWorker p w f) alone es
      (if answer = .dropped then .error .dropped else .ok answer)
      (alone.putWorker p w') := by
  intro later g
  apply Activity.run_eq_of_leads
  apply leads_runWorker (hRun later g)
  · intro hAnswer
    exact ⟨(if_neg hAnswer).symm, rfl⟩
  · intro hAnswer
    exact ⟨(if_pos hAnswer).symm, rfl⟩

/- So is one that is worked. -/
theorem Worked.copied
    {loaded : Worker}
    {f :
      Worker → List Event × History →
        Except Fault (FlushEnd × Worker × (List Event × History))}
    (hWorked : Worked p loaded m r m')
    (hKeyed : loaded.Keyed p)
    (hMirrors : Mirrors p m.engine alone)
    (hRun :
      ∀ t, f w t =
        .ok (loaded.tick Replay.world.toSurroundings.recorded t)) :
    Copies p (Engine.work Replay.world.recorded p w f)
      alone m r m' := by
  have hPut (w' : Worker) :
      Mirrors p (m.engine.putWorker p w')
        (alone.putWorker p w') :=
    hMirrors.change (Engine.changes_putWorker p w')
      (Engine.changes_putWorker p w')
  cases hWorked with
  | @settled answer w' _ _ _ elapsed hTicked hAnswer hSettled =>
      have hLast (b : CommittedBatch) :
          answer = .committed b → b.last.key = p := by
        rintro rfl
        exact hTicked.last_key hKeyed
      rcases hTicked.replayed with ⟨es, rfl, hTick⟩
      have hRunner :=
        replays_runWorker p alone
          fun later g => (hRun _).trans
            (congrArg Except.ok (hTick later g))
      rw [if_neg (mt FlushEnd.timed_eq_dropped.mp hAnswer)]
        at hRunner
      rcases hSettled.copied (.between 0 0) (hPut w') hLast with
        ⟨fs, alone', hHistory, hOutcome, hMirrors'⟩
      refine ⟨es ++ fs, alone', ?_, ?_, hMirrors'⟩
      · rw [hHistory]
        simp
      · exact (replays_ticks _).silent
          (hRunner.bind ((replays_ticks _).silent hOutcome))
  | cut hTicked =>
      rcases hTicked.replayed with ⟨es, rfl, hTick⟩
      have hRunner :=
        replays_runWorker p alone
          fun later g => (hRun _).trans
            (congrArg Except.ok (hTick later g))
      exact ⟨es, _, rfl, (replays_ticks _).silent hRunner.stop,
        hPut _⟩

/- The worker of a partition is readied alone as among others. -/
theorem Readied.copied
    (hReadied : Readied p m w m₁)
    (hMirrors : Mirrors p m.engine alone) :
    ∃ es alone₁,
      m₁.history = es.reverse ++ m.history ∧
        Replays (Engine.workerOf Replay.world.recorded p)
          alone es (.ok w) alone₁ ∧
        Mirrors p m₁.engine alone₁ := by
  cases hReadied with
  | kept w hWorker =>
      refine ⟨[], alone, rfl, ?_, hMirrors⟩
      unfold Engine.workerOf
      refine (replays_engine _).silent ?_
      rw [hMirrors.worker_eq, hWorker]
      exact fun _ _ => rfl
  | opened now hNone =>
      refine ⟨[.clock now],
        alone.putWorker p (m.engine.openWorker p now), rfl, ?_, ?_⟩
      · unfold Engine.workerOf
        refine (replays_engine _).silent ?_
        rw [hMirrors.worker_eq, hNone,
          ← hMirrors.openWorker_eq now]
        exact (replays_now _ now).heard fun _ _ => rfl
      · exact hMirrors.change (Engine.changes_putWorker p _)
          (Engine.changes_putWorker p _)

/- A delivered fragment is taken in alone as it was among others. -/
theorem copies_ingest
    {f : Fragment}
    (hKey : f.partitionKey = p)
    (hReadied : Readied p ⟨m.engine.taking f, m.history⟩ w m₁)
    (hKeyed : (w.append f).Keyed p)
    (hWorked : Worked p (w.append f) m₁ r m')
    (hMirrors : Mirrors p m.engine alone) :
    Copies p
      (Engine.handlePoll Replay.world.recorded (.fragment f))
      alone m r m' := by
  have hTaking :
      Mirrors p (m.engine.taking f) (alone.taking f) :=
    hMirrors.change (Engine.changes_taking hKey)
      (Engine.changes_taking hKey)
  rcases hReadied.copied hTaking with
    ⟨es, alone₁, hHistory, hReady, hMirrors₁⟩
  rcases hWorked.copied (w := w)
      (f := Worker.submit Replay.world.toSurroundings.recorded f)
      hKeyed hMirrors₁
      (fun _ => if_pos (hKey.trans hKeyed.partition.symm)) with
    ⟨fs, alone', hHistory', hWork, hMirrors'⟩
  refine ⟨es ++ fs, alone', ?_, ?_, hMirrors'⟩
  · rw [hHistory', hHistory]
    simp
  · subst hKey
    refine (replays_update _ _).silent ?_
    refine (replays_update _ _).silent ?_
    exact hReady.bind hWork

/- Alone, the worker of the partition is the one that is visited. -/
theorem replays_visited
    (hMirrors : Mirrors p m.engine alone) :
    Replays (Engine.visited Replay.world.recorded) alone []
      (.ok ((m.engine.workers.get? p).map fun _ => p).toList)
      alone := by
  have hKeys :
      alone.workers.keys =
        ((m.engine.workers.get? p).map fun _ => p).toList := by
    rw [Table.keys, hMirrors.workers_eq]
    cases m.engine.workers.get? p <;> rfl
  rw [← hKeys]
  exact fun _ _ => rfl

/- A tick of everything is a tick of the one worker there is. -/
theorem copies_tickAll
    (hWorker : m.engine.workers.get? p = some w)
    (hKeyed : w.Keyed p)
    (hWorked : Worked p w m r m')
    (hMirrors : Mirrors p m.engine alone) :
    Copies p (Engine.tickAll Replay.world.recorded)
      alone m r m' := by
  have hVisited := replays_visited hMirrors
  rw [hWorker] at hVisited
  rcases hWorked.copied (w := w)
      (f := fun w t =>
        .ok (w.tick Replay.world.toSurroundings.recorded t))
      hKeyed hMirrors (fun _ => rfl) with
    ⟨es, alone', hHistory, hWork, hMirrors'⟩
  refine ⟨es, alone', hHistory, hVisited.silent ?_, hMirrors'⟩
  have hTick :
      Replays (Engine.tickOne Replay.world.recorded p)
        alone es r alone' := by
    unfold Engine.tickOne
    refine (replays_engine _).silent ?_
    rw [hMirrors.worker_eq, hWorker]
    exact hWork
  have hOne :
      Engine.tickEach Replay.world.recorded [p] =
        Engine.tickOne Replay.world.recorded p := by
    simp [Engine.tickEach]
  rw [Option.map_some, Option.toList_some, hOne]
  exact hTick

/- Without a worker it does nothing. -/
theorem replays_tickAll_idle
    (hNone : m.engine.workers.get? p = none)
    (hMirrors : Mirrors p m.engine alone) :
    Replays (Engine.tickAll Replay.world.recorded) alone []
      (.ok ()) alone := by
  have hVisited := replays_visited hMirrors
  rw [hNone] at hVisited
  exact hVisited.silent fun _ _ => rfl

/- The gauges are set alone where they are set among others. -/
theorem replays_updateGauges
    {e : Engine}
    (hGauges : ∀ fault, ¬ e.GaugesFail fault)
    (hMirrors : Mirrors p e alone) :
    ∃ alone',
      Replays Engine.updateGauges alone [] (.ok ()) alone' ∧
        Mirrors p e alone' := by
  rcases hMirrors.sums_ok with ⟨⟨fragments, bytes⟩, hSums⟩
  rcases hMirrors.totalLag_ok hGauges with ⟨lag, hLag⟩
  refine ⟨(alone.count fun metrics =>
        (metrics.setBuffered fragments bytes).setActivePartitions
          (UInt64.ofNat alone.workers.size)).count
      (·.setConsumerLag (UInt64.ofNat lag.toInt.toNat)),
    ?_, hMirrors.of_lanes_eq rfl fun _ => rfl⟩
  unfold Engine.updateGauges
  refine (replays_engine _).silent ?_
  rw [hSums, hLag]
  refine .silent (a := (fragments, bytes)) (fun _ _ => rfl) ?_
  refine (replays_update _ _).silent ?_
  refine .silent (a := lag) (fun _ _ => rfl) ?_
  exact replays_update _ _

end Copies

end FragmentSink
