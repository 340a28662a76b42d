import FragmentSink.Engine.Run
import FragmentSink.Proofs.Activity
import FragmentSink.Proofs.History

/-
  A recorded run is the run itself.

  Taking notes changes no answer of a world, so an engine does
  in a recorded world what it does without the record.

  Main declarations:
    * `Activity.Records`
    * `records_step`
    * `unrecorded_run`
-/

namespace FragmentSink

variable {σ α β : Type}

------------------------------------------------------------
-- Commits and Flushes
------------------------------------------------------------

/- An answer of a recorded world without the record. -/
def unnoted (answer : α × (σ × History)) : α × σ :=
  (answer.1, answer.2.1)

theorem unnoted_commitAll
    (env : Surroundings σ)
    (batch : List Fragment)
    (t : σ × History) :
    unnoted (commitAll env.recorded batch t) =
      commitAll env batch t.1 := by
  induction batch generalizing t with
  | nil => rfl
  | cons f batch ih =>
      rcases hUpload : env.upload f t.1 with ⟨ending, u⟩
      have hNoted :
          env.recorded.upload f t =
            (ending, u, .upload f ending :: t.2) := by
        simp [Surroundings.recorded, noting, hUpload]
      rw [commitAll, commitAll, hUpload, hNoted]
      cases ending with
      | stored => exact ih (u, .upload f .stored :: t.2)
      | refused => rfl
      | expired => rfl
      | dropped => rfl

theorem unnoted_commitWithin
    (env : Surroundings σ)
    (limit : Option Span)
    (batch : List Fragment)
    (t : σ × History) :
    unnoted (commitWithin env.recorded limit batch t) =
      commitWithin env limit batch t.1 := by
  cases limit with
  | none => exact unnoted_commitAll env batch t
  | some span =>
      have hCommit :=
        unnoted_commitAll env batch (env.recorded.armTimer span t)
      have hArmed :
          (env.recorded.armTimer span t).1 =
            env.armTimer span t.1 :=
        rfl
      rw [hArmed] at hCommit
      simp only [commitWithin, Executor.within, ← hCommit]
      rfl

namespace Worker

/- What a worker ends with in a recorded world, without the record. -/
def unnoted (answer : FlushEnd × Worker × (σ × History)) :
    FlushEnd × Worker × σ :=
  (answer.1, answer.2.1, answer.2.2.1)

theorem unnoted_flush
    (env : Surroundings σ)
    (reason : FlushReason)
    (w : Worker)
    (t : σ × History) :
    unnoted (w.flush env.recorded reason t) =
      w.flush env reason t.1 := by
  unfold flush flushBy
  rw [within_commitAll, within_commitAll]
  cases hPending : w.pending with
  | nil => rfl
  | cons first rest =>
      have hCommit :=
        unnoted_commitWithin env w.commitLimit (first :: rest)
          (env.recorded.ticks t).2
      have hTicks :
          ((env.recorded.ticks t).2).1 = (env.ticks t.1).2 :=
        rfl
      rw [hTicks] at hCommit
      simp only [← hCommit]
      rcases commitWithin env.recorded w.commitLimit
          (first :: rest) (env.recorded.ticks t).2 with
        ⟨ending, u⟩
      cases ending <;> rfl

theorem unnoted_tick
    (env : Surroundings σ)
    (w : Worker)
    (t : σ × History) :
    unnoted (w.tick env.recorded t) = w.tick env t.1 := by
  have hNow : (env.recorded.now t).1 = (env.now t.1).1 := rfl
  have hAfter : (env.recorded.now t).2.1 = (env.now t.1).2 := rfl
  unfold tick tickBy
  simp only [hNow]
  cases (w.state.readinessAt (env.now t.1).1).reason with
  | none => rfl
  | some reason =>
      have hFlush :=
        unnoted_flush env reason w (env.recorded.now t).2
      rw [hAfter] at hFlush
      exact hFlush

end Worker

------------------------------------------------------------
-- Activities
------------------------------------------------------------

/- A session of a recorded world without the record. -/
def Session.unrecorded (s : Session (σ × History)) : Session σ :=
  ⟨s.engine, s.world.1⟩

namespace Activity

/-
  An activity does in a recorded world what another one does
  without the record: they end in the same way, and leave the
  same engine and the same world behind.
-/
def Records
    (x' : Activity (σ × History) α)
    (x : Activity σ α) : Prop :=
  ∀ s : Session (σ × History),
    x.run.run s.unrecorded =
      ((x'.run.run s).1, (x'.run.run s).2.unrecorded)

theorem records_pure (a : α) :
    Records (pure a : Activity (σ × History) α) (pure a) :=
  fun _ => rfl

theorem records_throw (e : Stop) :
    Records (throw e : Activity (σ × History) α) (throw e) :=
  fun _ => rfl

theorem records_engine :
    Records (engine : Activity (σ × History) Engine) engine :=
  fun _ => rfl

theorem records_update (f : Engine → Engine) :
    Records (update f : Activity (σ × History) Unit) (update f) :=
  fun _ => rfl

theorem records_bind
    {x' : Activity (σ × History) α}
    {x : Activity σ α}
    {f' : α → Activity (σ × History) β}
    {f : α → Activity σ β}
    (hFirst : Records x' x)
    (hThen : ∀ a, Records (f' a) (f a)) :
    Records (x' >>= f') (x >>= f) := by
  intro s
  rw [run_bind, run_bind, hFirst s]
  rcases x'.run.run s with ⟨r, t⟩
  cases r with
  | ok a => exact hThen a t
  | error e => rfl

theorem records_call
    {f' : σ × History → α × (σ × History)}
    {f : σ → α × σ}
    (hNoted : ∀ t, unnoted (f' t) = f t.1) :
    Records (call f') (call f) := by
  intro s
  have hCall := hNoted s.world
  show ((.ok (f s.world.1).1, ⟨s.engine, (f s.world.1).2⟩) :
    Except Stop α × Session σ) = _
  rw [← hCall]
  rfl

theorem records_await
    {f' : σ × History → Awaited α × (σ × History)}
    {f : σ → Awaited α × σ}
    (hNoted : ∀ t, unnoted (f' t) = f t.1) :
    Records (await f') (await f) := by
  unfold await
  apply records_bind (records_call hNoted)
  intro answer
  cases answer with
  | done a => exact records_pure a
  | dropped => exact records_throw .dropped

theorem records_orFault (x : Except Fault α) :
    Records (orFault x : Activity (σ × History) α) (orFault x) := by
  cases x with
  | ok a => exact records_pure a
  | error f => exact records_throw (.fault f)

theorem records_orFail (x : Except Error α) :
    Records (orFail x : Activity (σ × History) α) (orFail x) := by
  cases x with
  | ok a => exact records_pure a
  | error e => exact records_throw (.failed e)

theorem records_tryCatch
    {x' : Activity (σ × History) α}
    {x : Activity σ α}
    {handle' : Stop → Activity (σ × History) α}
    {handle : Stop → Activity σ α}
    (hFirst : Records x' x)
    (hHandle : ∀ e, Records (handle' e) (handle e)) :
    Records (tryCatch x' handle') (tryCatch x handle) := by
  intro s
  rw [run_tryCatch, run_tryCatch, hFirst s]
  rcases x'.run.run s with ⟨r, t⟩
  cases r with
  | ok a => rfl
  | error e => exact hHandle e t

end Activity

------------------------------------------------------------
-- Steps
------------------------------------------------------------

open Activity

variable (world : World σ)

theorem records_handleCommitted
    (p : PartitionKey)
    (b : CommittedBatch) :
    Records (Engine.handleCommitted world.recorded p b)
      (Engine.handleCommitted world p b) := by
  unfold Engine.handleCommitted
  apply records_bind (records_await fun _ => rfl)
  intro answer
  cases answer with
  | ok => exact records_update _
  | error cause =>
      exact records_bind (records_update _)
        fun _ => records_throw _

theorem records_sendBack
    (p : PartitionKey)
    (offset : Int64) :
    Records (Engine.sendBack world.recorded p offset)
      (Engine.sendBack world p offset) := by
  unfold Engine.sendBack
  apply records_bind (records_call fun _ => rfl)
  intro answer
  apply records_bind (records_orFail answer)
  intro _
  apply records_bind records_engine
  intro e
  apply records_bind (records_orFault _)
  intro offsets
  exact records_update _

theorem records_handleFailed
    (p : PartitionKey)
    (elapsed : Span) :
    Records (Engine.handleFailed world.recorded p elapsed)
      (Engine.handleFailed world p elapsed) := by
  unfold Engine.handleFailed
  apply records_bind (records_update _)
  intro _
  apply records_bind (records_call fun _ => rfl)
  intro noise
  apply records_bind records_engine
  intro e
  cases (e.budgetOf p).action noise with
  | halt n =>
      exact records_bind (records_update _)
        fun _ => records_throw _
  | retry backoff =>
      apply records_bind (records_update _)
      intro _
      apply records_bind records_engine
      intro e
      have hSleep :
          Records
            (await
              (world.recorded.sleep (.ofMillis backoff.toNat)))
            (await (world.sleep (.ofMillis backoff.toNat))) :=
        records_await fun _ => rfl
      cases e.redeliveryOf p with
      | none => exact hSleep
      | some offset =>
          exact records_bind (records_sendBack world p offset)
            fun _ => hSleep

theorem records_handleOutcome
    (p : PartitionKey)
    (elapsed : Span)
    (answer : FlushEnd) :
    Records (Engine.handleOutcome world.recorded p elapsed answer)
      (Engine.handleOutcome world p elapsed answer) := by
  cases answer with
  | nothing => exact records_pure ()
  | committed b => exact records_handleCommitted world p b
  | failed => exact records_handleFailed world p elapsed
  | dropped => exact records_throw .dropped

/- The run of a worker keeps it, whether it ends or is dropped. -/
theorem run_runWorker
    (p : PartitionKey)
    (w : Worker)
    (f : Worker → σ → Except Fault (FlushEnd × Worker × σ))
    (s : Session σ) :
    (Engine.runWorker p w f).run.run s =
      match f w s.world with
      | .error fault => (.error (.fault fault), s)
      | .ok (answer, w', t) =>
          (if answer = .dropped then .error .dropped
            else .ok answer,
            ⟨s.engine.putWorker p w', t⟩) := by
  unfold Engine.runWorker
  rw [run_bind]
  show ((orFault (f w s.world) >>= _ : Activity σ FlushEnd).run.run
    s) = _
  rw [run_bind]
  rcases f w s.world with fault | ⟨answer, w', t⟩
  · rfl
  · cases answer <;> rfl

/- A worker that ends alike is run alike. -/
theorem records_runWorker
    (p : PartitionKey)
    (w : Worker)
    {f' :
      Worker → σ × History →
        Except Fault (FlushEnd × Worker × (σ × History))}
    {f : Worker → σ → Except Fault (FlushEnd × Worker × σ)}
    (hRun : ∀ t, (f' w t).map Worker.unnoted = f w t.1) :
    Records (Engine.runWorker p w f')
      (Engine.runWorker p w f) := by
  intro s
  have hEnd : f w s.unrecorded.world = _ := (hRun s.world).symm
  rw [run_runWorker, run_runWorker, hEnd]
  rcases f' w s.world with fault | ⟨answer, w', t⟩
  · rfl
  · rfl

theorem records_work
    (p : PartitionKey)
    (w : Worker)
    {f' :
      Worker → σ × History →
        Except Fault (FlushEnd × Worker × (σ × History))}
    {f : Worker → σ → Except Fault (FlushEnd × Worker × σ)}
    (hRun : ∀ t, (f' w t).map Worker.unnoted = f w t.1) :
    Records (Engine.work world.recorded p w f')
      (Engine.work world p w f) := by
  unfold Engine.work
  apply records_bind (records_call fun _ => rfl)
  intro start
  apply records_bind (records_runWorker p w hRun)
  intro answer
  apply records_bind (records_call fun _ => rfl)
  intro stop
  exact records_handleOutcome world p _ answer

theorem records_workerOf (p : PartitionKey) :
    Records (Engine.workerOf world.recorded p)
      (Engine.workerOf world p) := by
  unfold Engine.workerOf
  apply records_bind records_engine
  intro e
  cases e.workers.get? p with
  | some w => exact records_pure w
  | none =>
      apply records_bind (records_call fun _ => rfl)
      intro now
      exact records_bind (records_update _) fun _ => records_pure _

theorem records_ingest (f : Fragment) :
    Records (Engine.ingest world.recorded f)
      (Engine.ingest world f) := by
  unfold Engine.ingest
  apply records_bind (records_update _)
  intro _
  apply records_bind (records_workerOf world f.partitionKey)
  intro w
  apply records_work
  intro t
  unfold Worker.submit Worker.submitBy
  split
  · exact congrArg Except.ok
      (Worker.unnoted_tick world.toSurroundings _ t)
  · rfl

theorem records_tickOne (p : PartitionKey) :
    Records (Engine.tickOne world.recorded p)
      (Engine.tickOne world p) := by
  unfold Engine.tickOne
  apply records_bind records_engine
  intro e
  cases e.workers.get? p with
  | none => exact records_pure ()
  | some w =>
      apply records_work
      intro t
      exact congrArg Except.ok
        (Worker.unnoted_tick world.toSurroundings w t)

theorem records_tickEach (ps : List PartitionKey) :
    Records (Engine.tickEach world.recorded ps)
      (Engine.tickEach world ps) := by
  induction ps with
  | nil => exact records_pure ()
  | cons p ps ih =>
      exact records_bind (records_tickOne world p) fun _ => ih

theorem records_visited :
    Records (Engine.visited world.recorded)
      (Engine.visited world) := by
  unfold Engine.visited
  apply records_bind records_engine
  intro e
  apply records_bind (records_call fun _ => rfl)
  intro order
  exact records_pure order.1

theorem records_releaseRevoked :
    Records (Engine.releaseRevoked world.recorded)
      (Engine.releaseRevoked world) := by
  unfold Engine.releaseRevoked
  apply records_bind (records_call fun _ => rfl)
  intro answer
  cases answer with
  | error cause => exact records_pure ()
  | ok ps => exact records_update _

theorem records_updateGauges :
    Records (Engine.updateGauges : Activity (σ × History) Unit)
      Engine.updateGauges := by
  unfold Engine.updateGauges
  apply records_bind records_engine
  intro e
  apply records_bind (records_orFault _)
  intro sums
  apply records_bind (records_update _)
  intro _
  apply records_bind (records_orFault _)
  intro lag
  exact records_update _

theorem records_handlePoll (answer : Poll) :
    Records (Engine.handlePoll world.recorded answer)
      (Engine.handlePoll world answer) := by
  cases answer with
  | fragment f =>
      exact records_bind (records_update _)
        fun _ => records_ingest world f
  | quiet => exact records_pure ()
  | failed cause backoff goOn =>
      apply records_bind (records_update _)
      intro _
      cases goOn with
      | true =>
          exact records_bind (records_update _)
            fun _ => records_await fun _ => rfl
      | false =>
          exact records_bind (records_update _)
            fun _ => records_throw _

/- A step in a recorded world is the step without the record. -/
theorem records_step :
    Records (Engine.step world.recorded) (Engine.step world) := by
  unfold Engine.step
  apply records_bind (records_await fun _ => rfl)
  intro answer
  apply records_bind (records_handlePoll world answer)
  intro _
  apply records_bind (records_releaseRevoked world)
  intro _
  apply records_bind
    (records_bind (records_visited world)
      fun ps => records_tickEach world ps)
  intro _
  exact records_updateGauges

------------------------------------------------------------
-- Runs
------------------------------------------------------------

theorem records_flushOne (p : PartitionKey) :
    Records (Engine.flushOne world.recorded p)
      (Engine.flushOne world p) := by
  unfold Engine.flushOne
  apply records_bind records_engine
  intro e
  cases e.workers.get? p with
  | none => exact records_pure ()
  | some w =>
      apply records_bind
      · apply records_runWorker
        intro t
        exact congrArg Except.ok
          (Worker.unnoted_flush world.toSurroundings .shutdown w t)
      · intro answer
        cases answer with
        | nothing => exact records_pure ()
        | failed => exact records_pure ()
        | dropped => exact records_throw .dropped
        | committed b =>
            apply records_bind (records_await fun _ => rfl)
            intro answer
            cases answer with
            | error cause => exact records_pure ()
            | ok => exact records_update _

theorem records_flushEach (ps : List PartitionKey) :
    Records (Engine.flushEach world.recorded ps)
      (Engine.flushEach world ps) := by
  induction ps with
  | nil => exact records_pure ()
  | cons p ps ih =>
      exact records_bind (records_flushOne world p) fun _ => ih

theorem records_finish :
    Records (Engine.finish world.recorded)
      (Engine.finish world) := by
  have hFlushAll :
      Records (Engine.flushAll world.recorded)
        (Engine.flushAll world) :=
    records_bind (records_visited world)
      fun ps => records_flushEach world ps
  have hShutDown :
      Records (Engine.shutDown world.recorded)
        (Engine.shutDown world) := by
    unfold Engine.shutDown
    refine records_bind (fun _ => rfl) fun _ => ?_
    apply records_bind
    · apply records_tryCatch hFlushAll
      intro e
      cases e with
      | dropped => exact records_pure ()
      | failed cause => exact records_throw (.failed cause)
      | fault f => exact records_throw (.fault f)
    · intro _
      exact records_updateGauges
  unfold Engine.finish
  exact records_bind hShutDown fun _ => records_update _

/- A run of a recorded world without the record. -/
def Engine.Run.unrecorded
    (run : Engine.Run (σ × History)) : Engine.Run σ where
  atPolls := run.atPolls.map Session.unrecorded
  ending := run.ending
  last := run.last.unrecorded

theorem unrecorded_closing
    (ending : Engine.RunEnd)
    (s : Session (σ × History)) :
    (Engine.closing world.recorded ending s).unrecorded =
      Engine.closing world ending s.unrecorded := by
  unfold Engine.closing
  rw [records_finish world s]
  rcases (Engine.finish world.recorded).run.run s with ⟨r, t⟩
  rcases r with stop | _
  · cases stop <;> rfl
  · rfl

theorem unrecorded_loop
    (steps : Nat)
    (s : Session (σ × History)) :
    (Engine.loop world.recorded steps s).unrecorded =
      Engine.loop world steps s.unrecorded := by
  induction steps generalizing s with
  | zero => rfl
  | succ steps ih =>
      unfold Engine.loop
      rw [records_step world s]
      rcases (Engine.step world.recorded).run.run s with ⟨r, t⟩
      have hRest (rest : Engine.Run (σ × History)) :
          Engine.Run.unrecorded
              { rest with atPolls := s :: rest.atPolls } =
            { rest.unrecorded with
              atPolls :=
                s.unrecorded :: rest.unrecorded.atPolls } :=
        rfl
      rw [hRest]
      rcases r with (cause | fault | _) | _
      · simp only [unrecorded_closing]
      · rfl
      · simp only [unrecorded_closing]
      · simp only [ih]

/- Taking notes changes nothing about a run. -/
theorem unrecorded_run
    (steps : Nat)
    (e : Engine)
    (s : σ)
    (h : History) :
    (Engine.run world.recorded steps e (s, h)).unrecorded =
      Engine.run world steps e s :=
  unrecorded_loop world steps ⟨e.started, s, h⟩

end FragmentSink
