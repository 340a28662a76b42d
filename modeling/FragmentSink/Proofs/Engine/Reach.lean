import FragmentSink.Engine.Run
import FragmentSink.Proofs.Engine.Moves

/-
  The moments a run of an engine goes through.

  A run moves while it runs, and is stopped by one reason.
  Unless that is a fault, what is buffered is then flushed for
  good, one buffer after the other, and the run has ended.

  Main declarations:
    * `FlushedOut`
    * `Reaches`
    * `run_reaches`
-/

namespace FragmentSink

variable {σ : Type}

------------------------------------------------------------
-- The Final Flush
------------------------------------------------------------

/-
  The final flush of one partition.  A buffer that cannot be
  stored or acknowledged is left behind, and the flush of the
  others goes on unless it is dropped.
-/
inductive FlushedOut (p : PartitionKey) (m : Moment) :
    Except Stop Unit → Moment → Prop
| unstored
    {w w' : Worker}
    {h' : History}
    {answer : FlushEnd}
    (hWorker : m.engine.workers.get? p = some w)
    (hFlushed : w.Flushed .shutdown m.history answer w' h')
    (hAnswer : answer = .nothing ∨ answer = .failed) :
    FlushedOut p m (.ok ()) ⟨m.engine.putWorker p w', h'⟩
| cut
    {w w' : Worker}
    {h' : History}
    (hWorker : m.engine.workers.get? p = some w)
    (hFlushed : w.Flushed .shutdown m.history .dropped w' h') :
    FlushedOut p m (.error .dropped)
      ⟨m.engine.putWorker p w', h'⟩
| acknowledged
    {w w' : Worker}
    {h' : History}
    {b : CommittedBatch}
    (hWorker : m.engine.workers.get? p = some w)
    (hFlushed :
      w.Flushed .shutdown m.history (.committed b) w' h') :
    FlushedOut p m (.ok ())
      ⟨(m.engine.putWorker p w').acknowledged b,
        .commit b.last (.done (.ok ())) :: h'⟩
| unacknowledged
    {w w' : Worker}
    {h' : History}
    {b : CommittedBatch}
    (cause : Error)
    (hWorker : m.engine.workers.get? p = some w)
    (hFlushed :
      w.Flushed .shutdown m.history (.committed b) w' h') :
    FlushedOut p m (.ok ())
      ⟨m.engine.putWorker p w',
        .commit b.last (.done (.error cause)) :: h'⟩
| lost
    {w w' : Worker}
    {h' : History}
    {b : CommittedBatch}
    (hWorker : m.engine.workers.get? p = some w)
    (hFlushed :
      w.Flushed .shutdown m.history (.committed b) w' h') :
    FlushedOut p m (.error .dropped)
      ⟨m.engine.putWorker p w',
        .commit b.last .dropped :: h'⟩

/- It reads the clock, uploads, and commits what it stored. -/
theorem FlushedOut.grows
    {P : Event → Prop}
    {p : PartitionKey}
    {m m' : Moment}
    {r : Except Stop Unit}
    (hOut : FlushedOut p m r m')
    (hClock : ∀ now, P (.clock now))
    (hUpload : ∀ f ending, P (.upload f ending))
    (hCommit : ∀ t answer, P (.commit t answer)) :
    Grows P m.history m'.history := by
  have hFlush
      {w w' : Worker}
      {answer : FlushEnd}
      {h' : History}
      (hFlushed : w.Flushed .shutdown m.history answer w' h') :
      Grows P m.history h' :=
    hFlushed.grows hClock fun f _ => hUpload f
  cases hOut with
  | unstored hWorker hFlushed => exact hFlush hFlushed
  | cut hWorker hFlushed => exact hFlush hFlushed
  | acknowledged hWorker hFlushed =>
      exact (hFlush hFlushed).cons (hCommit _ _)
  | unacknowledged cause hWorker hFlushed =>
      exact (hFlush hFlushed).cons (hCommit _ _)
  | lost hWorker hFlushed =>
      exact (hFlush hFlushed).cons (hCommit _ _)

/- The moves of the final flush, each of one partition. -/
def FlushMove
    (m : Moment)
    (r : Except Stop Unit)
    (m' : Moment) : Prop :=
  ∃ p, FlushedOut p m r m'

theorem FlushMove.calls
    {m m' : Moment}
    {r : Except Stop Unit}
    (hMove : FlushMove m r m') :
    Grows Event.IsCall m.history m'.history := by
  rcases hMove with ⟨p, hOut⟩
  exact hOut.grows (fun _ => trivial) (fun _ _ => trivial)
    fun _ _ => trivial

theorem FlushMove.extends
    {m m' : Moment}
    {r : Except Stop Unit}
    (hMove : FlushMove m r m') :
    m.history <:+ m'.history :=
  hMove.calls.suffix

/- A buffer is flushed for good, if the partition still has one. -/
theorem ends_flushOne_of
    (world : World σ)
    (p : PartitionKey)
    (s : Session (σ × History))
    {R : Except Stop Unit → Moment → Prop}
    (hNone :
      s.engine.workers.get? p = none → R (.ok ()) s.moment)
    (hOut : ∀ r m', FlushedOut p s.moment r m' → R r m') :
    (Engine.flushOne world.recorded p).Ends s R := by
  unfold Engine.flushOne Activity.Ends
  rw [Activity.leads_bind, Activity.leads_engine]
  cases hWorker : s.engine.workers.get? p with
  | none => exact hNone hWorker
  | some w =>
      have hFlushed :=
        w.flushed_flush world.toSurroundings .shutdown
          s.world.1 s.world.2
      rcases hFlush :
          w.flush world.toSurroundings.recorded .shutdown s.world
        with ⟨answer, w', t⟩
      rw [hFlush] at hFlushed
      rw [Activity.leads_bind]
      apply leads_runWorker (congrArg Except.ok hFlush)
      · intro hAnswer
        cases answer with
        | nothing =>
            exact hOut _ _ (.unstored hWorker hFlushed (.inl rfl))
        | failed =>
            exact hOut _ _ (.unstored hWorker hFlushed (.inr rfl))
        | dropped => exact absurd rfl hAnswer
        | committed b =>
            rw [Activity.leads_bind]
            apply Activity.leads_noted_await (.commit b.last)
              fun _ => rfl
            · intro answer u
              cases answer with
              | ok =>
                  exact hOut _ _ (.acknowledged hWorker hFlushed)
              | error cause =>
                  exact hOut _ _
                    (.unacknowledged cause hWorker hFlushed)
            · intro u
              exact hOut _ _ (.lost hWorker hFlushed)
      · rintro rfl
        exact hOut _ _ (.cut hWorker hFlushed)

/- So it makes one move at most. -/
theorem ends_flushOne
    (world : World σ)
    (p : PartitionKey)
    (s : Session (σ × History)) :
    (Engine.flushOne world.recorded p).Ends s
      (Chain FlushMove s.moment) :=
  ends_flushOne_of world p s
    (fun _ => .done s.moment)
    (fun _ _ hOut => .of_move ⟨p, hOut⟩)

theorem ends_flushEach
    (world : World σ)
    (ps : List PartitionKey)
    (s : Session (σ × History)) :
    (Engine.flushEach world.recorded ps).Ends s
      (Chain FlushMove s.moment) := by
  induction ps generalizing s with
  | nil => exact .done s.moment
  | cons p ps ih => exact (ends_flushOne world p s).bind ih

/- All buffers are flushed for good by a chain of moves. -/
theorem ends_flushAll
    (world : World σ)
    (s : Session (σ × History)) :
    (Engine.flushAll world.recorded).Ends s
      (Chain FlushMove s.moment) := by
  unfold Engine.flushAll Engine.visited Activity.Ends
  simp only [Activity.leads_bind]
  rw [Activity.leads_engine]
  apply Activity.leads_quiet_call fun _ => rfl
  intro order t
  exact ends_flushEach world order.1 ⟨s.engine, t, s.world.2⟩

/- Nothing but a drop ends the final flush early. -/
theorem eq_dropped_of_flushMoves
    {m m' : Moment}
    {r : Except Stop Unit}
    {why : Stop}
    (hMoves : Chain FlushMove m r m')
    (hStopped : r = .error why) :
    why = .dropped := by
  induction hMoves with
  | done => cases hStopped
  | stopped hMove =>
      cases hStopped
      rcases hMove with ⟨p, hOut⟩
      cases hOut with
      | cut => rfl
      | lost => rfl
  | go _ _ ih => exact ih hStopped

------------------------------------------------------------
-- Reachable Moments
------------------------------------------------------------

/- The phases of a run, each with what stopped it. -/
inductive Phase where
| running
| stopped (why : Stop)
| flushing (why : Stop)
| flushed (why : Stop)

/- The phase in which a move leaves a running engine. -/
def Phase.after : Except Stop Unit → Phase
| .ok _ => .running
| .error why => .stopped why

/- The moments that a run from a given start goes through. -/
inductive Reaches (start : Moment) : Phase → Moment → Prop
| start : Reaches start .running start
| move
    {m m' : Moment}
    {r : Except Stop Unit}
    (hReaches : Reaches start .running m)
    (hMove : Move m r m') :
    Reaches start (.after r) m'
| close
    {m : Moment}
    {why : Stop}
    (hReaches : Reaches start (.stopped why) m)
    (hWhy : ∀ fault, why ≠ .fault fault) :
    Reaches start (.flushing why)
      ⟨m.engine, .closing :: m.history⟩
| flush
    {m m' : Moment}
    {why : Stop}
    (hReaches : Reaches start (.flushing why) m)
    (hMove : FlushMove m (.ok ()) m') :
    Reaches start (.flushing why) m'
| cut
    {m m' : Moment}
    {why : Stop}
    (hReaches : Reaches start (.flushing why) m)
    (hMove : FlushMove m (.error .dropped) m') :
    Reaches start (.flushed why) m'
| flushed
    {m : Moment}
    {why : Stop}
    (hReaches : Reaches start (.flushing why) m) :
    Reaches start (.flushed why) m

namespace Reaches

variable {start m m' : Moment}
variable {r : Except Stop Unit}
variable {why : Stop}

/- A chain of moves is reached move by move. -/
theorem chain
    (hReaches : Reaches start .running m)
    (hMoves : Chain Move m r m') :
    Reaches start (.after r) m' := by
  induction hMoves with
  | done => exact hReaches
  | stopped hMove => exact hReaches.move hMove
  | go hMove _ ih => exact ih (hReaches.move hMove)

/- So is the final flush, however it ends. -/
theorem flushChain
    (hReaches : Reaches start (.flushing why) m)
    (hMoves : Chain FlushMove m r m') :
    Reaches start (.flushed why) m' := by
  induction hMoves with
  | done => exact hReaches.flushed
  | stopped hMove =>
      have hDropped :=
        eq_dropped_of_flushMoves (.stopped hMove) rfl
      subst hDropped
      exact hReaches.cut hMove
  | go hMove _ ih => exact ih (hReaches.flush hMove)

end Reaches

theorem Reaches.extends
    {start m : Moment}
    {phase : Phase}
    (hReaches : Reaches start phase m) :
    start.history <:+ m.history := by
  induction hReaches with
  | start => exact List.suffix_rfl
  | move _ hMove ih => exact ih.trans hMove.extends
  | close _ _ ih => exact ih.trans (List.suffix_cons _ _)
  | flush _ hMove ih => exact ih.trans hMove.extends
  | cut _ hMove ih => exact ih.trans hMove.extends
  | flushed _ ih => exact ih

------------------------------------------------------------
-- Runs
------------------------------------------------------------

/- The end of a run that was stopped by a reason. -/
def Engine.RunEnd.ofStop : Stop → Engine.RunEnd
| .failed e => .failed e
| .fault f => .fault f
| .dropped => .stopped

/-
  How a run from a given start concludes: it has no steps
  left, a fault stops it on the spot, or it is flushed and the
  gauges are set one last time.
-/
inductive Concludes (start : Moment) :
    Engine.RunEnd → Moment → Prop
| unfinished
    {m : Moment}
    (hReaches : Reaches start .running m) :
    Concludes start .unfinished m
| faulted
    {m : Moment}
    {fault : Fault}
    (hReaches : Reaches start (.stopped (.fault fault)) m) :
    Concludes start (.fault fault) m
| closed
    {m : Moment}
    {why : Stop}
    (metrics : Metrics)
    (hReaches : Reaches start (.flushed why) m)
    (hGauged : m.engine.Gauged metrics) :
    Concludes start (.ofStop why)
      ⟨{ m.engine with
          metrics := metrics
          health := m.engine.health.consumerStopped },
        m.history⟩
| overflowed
    {m : Moment}
    {why : Stop}
    (metrics : Metrics)
    (fault : Fault)
    (hReaches : Reaches start (.flushed why) m)
    (hFault : m.engine.GaugesFail fault) :
    Concludes start (.fault fault)
      ⟨{ m.engine with metrics := metrics }, m.history⟩

theorem Concludes.extends
    {start m : Moment}
    {ending : Engine.RunEnd}
    (hConcludes : Concludes start ending m) :
    start.history <:+ m.history := by
  cases hConcludes with
  | unfinished hReaches => exact hReaches.extends
  | faulted hReaches => exact hReaches.extends
  | closed metrics hReaches => exact hReaches.extends
  | overflowed metrics fault hReaches => exact hReaches.extends

/-
  A run that is closed flushes all buffers, whether or not that
  is dropped, and then sets the gauges.
-/
theorem leads_finish_of
    (world : World σ)
    {s : Session (σ × History)}
    {R : Except Stop Unit → Moment → Prop}
    {Q : Unit → Session (σ × History) → Prop}
    {E : Stop → Session (σ × History) → Prop}
    (hFlushed :
      ∀ t : Session (σ × History),
        t.moment = ⟨s.engine, .closing :: s.world.2⟩ →
          (Engine.flushAll world.recorded).Ends t R)
    (hDropped : ∀ why m, R (.error why) m → why = .dropped)
    (hSet :
      ∀ r (t : Session (σ × History)) metrics,
        R r t.moment → t.engine.Gauged metrics →
        Q ()
          ⟨{ t.engine with
              metrics := metrics
              health := t.engine.health.consumerStopped },
            t.world⟩)
    (hFault :
      ∀ r (t : Session (σ × History)) metrics fault,
        R r t.moment → t.engine.GaugesFail fault →
          E (.fault fault)
            ⟨{ t.engine with metrics := metrics }, t.world⟩) :
    (Engine.finish world.recorded).Leads s Q E := by
  unfold Engine.finish Engine.shutDown
  simp only [Activity.leads_bind]
  rw [Activity.leads_modify, Activity.leads_tryCatch]
  have hGauges
      (r : Except Stop Unit)
      (t : Session (σ × History))
      (hEnd : R r t.moment) :
      Engine.updateGauges.Leads t
        (fun _ u =>
          (Activity.update fun e =>
              { e with
                health := e.health.consumerStopped }).Leads u
            Q E)
        E :=
    leads_updateGauges
      (fun metrics hGauged => hSet r t metrics hEnd hGauged)
      (fun metrics fault => hFault r t metrics fault hEnd)
  apply Activity.Leads.mono (hFlushed _ rfl)
  · intro _ t hEnd
    exact hGauges _ t hEnd
  · intro e t hEnd
    cases hDropped e t.moment hEnd
    exact hGauges _ t hEnd

/- A stopped run is flushed and concluded. -/
theorem leads_finish
    (world : World σ)
    {start : Moment}
    {s : Session (σ × History)}
    {why : Stop}
    (hReaches : Reaches start (.stopped why) s.moment)
    (hWhy : ∀ fault, why ≠ .fault fault) :
    (Engine.finish world.recorded).Leads s
      (fun _ t => Concludes start (.ofStop why) t.moment)
      (fun e t => ∃ fault,
        e = .fault fault ∧
          Concludes start (.fault fault) t.moment) := by
  have hFlushing := hReaches.close hWhy
  apply leads_finish_of world (R :=
    Chain FlushMove ⟨s.engine, .closing :: s.world.2⟩)
  · intro t hBegun
    rw [← hBegun]
    exact ends_flushAll world t
  · intro why' m hMoves
    exact eq_dropped_of_flushMoves hMoves rfl
  · intro r t metrics hMoves hGauged
    exact .closed metrics (hFlushing.flushChain hMoves) hGauged
  · intro r t metrics fault hMoves hFault
    exact ⟨fault, rfl,
      .overflowed metrics fault (hFlushing.flushChain hMoves)
        hFault⟩

theorem concludes_closing
    (world : World σ)
    {start : Moment}
    {s : Session (σ × History)}
    {why : Stop}
    (hReaches : Reaches start (.stopped why) s.moment)
    (hWhy : ∀ fault, why ≠ .fault fault) :
    Concludes start
      (Engine.closing world.recorded (.ofStop why) s).ending
      (Engine.closing world.recorded (.ofStop why) s).last.moment :=
    by
  have hFinish := leads_finish world hReaches hWhy
  unfold Engine.closing
  rcases hRun : (Engine.finish world.recorded).run.run s with
    ⟨r, t⟩
  cases r with
  | ok => exact hFinish.of_run_ok hRun
  | error e =>
      rcases hFinish.of_run_error hRun with
        ⟨fault, rfl, hConcludes⟩
      exact hConcludes

theorem atPolls_closing
    (world : World σ)
    (ending : Engine.RunEnd)
    (s : Session σ) :
    (Engine.closing world ending s).atPolls = [] := by
  unfold Engine.closing
  split <;> rfl

/- Whatever a loop goes through is reached, and it concludes. -/
theorem loop_reaches
    (world : World σ)
    (steps : Nat)
    {start : Moment}
    {s : Session (σ × History)}
    (hReaches : Reaches start .running s.moment) :
    (∀ t ∈ (Engine.loop world.recorded steps s).atPolls,
        Reaches start .running t.moment) ∧
      Concludes start
        (Engine.loop world.recorded steps s).ending
        (Engine.loop world.recorded steps s).last.moment := by
  induction steps generalizing s with
  | zero => exact ⟨List.forall_mem_nil _, .unfinished hReaches⟩
  | succ steps ih =>
      have hStep := ends_step world s
      unfold Engine.loop
      rcases hRun : (Engine.step world.recorded).run.run s with
        ⟨r, t⟩
      cases r with
      | ok =>
          have hMoves := hStep.of_run_ok hRun
          rcases ih (hReaches.chain hMoves) with
            ⟨hPolls, hConcludes⟩
          exact ⟨List.forall_mem_cons.mpr ⟨hReaches, hPolls⟩,
            hConcludes⟩
      | error why =>
          have hStopped :=
            hReaches.chain (hStep.of_run_error hRun)
          have hPoll :
              ∀ u ∈ [s], Reaches start .running u.moment :=
            List.forall_mem_singleton.mpr hReaches
          cases why with
          | fault fault => exact ⟨hPoll, .faulted hStopped⟩
          | dropped =>
              have hConcludes :=
                concludes_closing world hStopped nofun
              simp only [atPolls_closing]
              exact ⟨hPoll, hConcludes⟩
          | failed e =>
              have hConcludes :=
                concludes_closing world hStopped nofun
              simp only [atPolls_closing]
              exact ⟨hPoll, hConcludes⟩

/- What had happened at a poll is in the history of the whole run. -/
theorem atPolls_extends
    (world : World σ)
    (steps : Nat)
    (s : Session (σ × History)) :
    ∀ t ∈ (Engine.loop world.recorded steps s).atPolls,
      t.world.2 <:+
        (Engine.loop world.recorded steps s).last.world.2 := by
  induction steps generalizing s with
  | zero => exact List.forall_mem_nil _
  | succ steps ih =>
      have hLast :=
        (loop_reaches world (steps + 1)
          (@Reaches.start s.moment)).2.extends
      revert hLast
      unfold Engine.loop
      rcases (Engine.step world.recorded).run.run s with ⟨r, t⟩
      intro hLast
      cases r with
      | ok => exact List.forall_mem_cons.mpr ⟨hLast, ih t⟩
      | error why =>
          cases why with
          | fault => exact List.forall_mem_singleton.mpr hLast
          | dropped =>
              simp only [atPolls_closing]
              exact List.forall_mem_singleton.mpr hLast
          | failed =>
              simp only [atPolls_closing]
              exact List.forall_mem_singleton.mpr hLast

/-
  A run over a recorded world, with what had happened before
  it, goes through reachable moments only and concludes.
-/
theorem run_reaches
    (world : World σ)
    (steps : Nat)
    (e : Engine)
    (s : σ)
    (h : History) :
    (∀ t ∈ (Engine.run world.recorded steps e (s, h)).atPolls,
        Reaches ⟨e.started, h⟩ .running t.moment) ∧
      Concludes ⟨e.started, h⟩
        (Engine.run world.recorded steps e (s, h)).ending
        (Engine.run world.recorded steps e (s, h)).last.moment :=
  loop_reaches world steps .start

end FragmentSink
