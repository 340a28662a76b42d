import FragmentSink.Proofs.Engine.Steps

/-
  The end of a run, from the step that stopped it.

  The final flush visits every partition with a worker, each
  of them once, and goes on until it is dropped.  Then the
  gauges are set, and the run has ended.

  Main declarations:
    * `FlushedEach`
    * `FlushedAll`
    * `Ended`
    * `ended_run`
-/

namespace FragmentSink

variable {σ : Type}
variable {m m' : Moment}
variable {r : Except Stop Unit}

------------------------------------------------------------
-- One Partition after the Other
------------------------------------------------------------

/-
  The final flush of the listed partitions in turn.  One that
  has no worker is passed over.
-/
inductive FlushedEach :
    List PartitionKey → Moment → Except Stop Unit → Moment → Prop
| done (m : Moment) : FlushedEach [] m (.ok ()) m
| skipped
    {p : PartitionKey}
    {ps : List PartitionKey}
    {m m' : Moment}
    {r : Except Stop Unit}
    (hNone : m.engine.workers.get? p = none)
    (hRest : FlushedEach ps m r m') :
    FlushedEach (p :: ps) m r m'
| flushed
    {p : PartitionKey}
    {ps : List PartitionKey}
    {m m₁ m' : Moment}
    {r : Except Stop Unit}
    (hOut : FlushedOut p m (.ok ()) m₁)
    (hRest : FlushedEach ps m₁ r m') :
    FlushedEach (p :: ps) m r m'
| stopped
    {p : PartitionKey}
    {ps : List PartitionKey}
    {m m' : Moment}
    {why : Stop}
    (hOut : FlushedOut p m (.error why) m') :
    FlushedEach (p :: ps) m (.error why) m'

/- What the flush of each partition keeps is kept by all of them. -/
theorem FlushedEach.keeps
    {R : Moment → Moment → Prop}
    {ps : List PartitionKey}
    (hFlushed : FlushedEach ps m r m')
    (hRefl : ∀ m, R m m)
    (hTrans : ∀ {m m₁ m'}, R m m₁ → R m₁ m' → R m m')
    (hOne : ∀ {p m r m'}, FlushedOut p m r m' → R m m') :
    R m m' := by
  induction hFlushed with
  | done m => exact hRefl m
  | skipped _ _ ih => exact ih
  | flushed hOut _ ih => exact hTrans (hOne hOut) ih
  | stopped hOut => exact hOne hOut

/- Together they read the clock, upload and commit. -/
theorem FlushedEach.grows
    {P : Event → Prop}
    {ps : List PartitionKey}
    (hFlushed : FlushedEach ps m r m')
    (hClock : ∀ now, P (.clock now))
    (hUpload : ∀ f ending, P (.upload f ending))
    (hCommit : ∀ t answer, P (.commit t answer)) :
    Grows P m.history m'.history :=
  hFlushed.keeps
    (R := fun m m' => Grows P m.history m'.history)
    (fun _ => .refl _ _)
    (fun hFirst hThen => hFirst.trans hThen)
    fun hOut => hOut.grows hClock hUpload hCommit

/- They are moves of a final flush. -/
theorem FlushedEach.chain
    {ps : List PartitionKey}
    (hFlushed : FlushedEach ps m r m') :
    Chain FlushMove m r m' := by
  induction hFlushed with
  | done m => exact .done m
  | skipped _ _ ih => exact ih
  | flushed hOut _ ih => exact .go ⟨_, hOut⟩ ih
  | stopped hOut => exact .stopped ⟨_, hOut⟩

theorem ends_flushEach_inTurn
    (world : World σ)
    (ps : List PartitionKey)
    (s : Session (σ × History)) :
    (Engine.flushEach world.recorded ps).Ends s
      (FlushedEach ps s.moment) := by
  induction ps generalizing s with
  | nil => exact .done s.moment
  | cons p ps ih =>
      have hFirst :=
        ends_flushOne_of world p s
          (R := fun r m =>
            s.engine.workers.get? p = none ∧ r = .ok () ∧
                m = s.moment ∨
              FlushedOut p s.moment r m)
          (fun hNone => .inl ⟨hNone, rfl, rfl⟩)
          (fun _ _ hOut => .inr hOut)
      unfold Engine.flushEach Activity.Ends
      rw [Activity.leads_bind]
      apply Activity.Leads.mono hFirst
      · intro _ t hEnd
        have hAll
            {r : Except Stop Unit}
            {m : Moment}
            (hRest : FlushedEach ps t.moment r m) :
            FlushedEach (p :: ps) s.moment r m := by
          rcases hEnd with ⟨hNone, -, hSame⟩ | hOut
          · rw [hSame] at hRest
            exact .skipped hNone hRest
          · exact .flushed hOut hRest
        apply Activity.Leads.mono (ih t)
        · intro _ u hRest
          exact hAll hRest
        · intro e u hRest
          exact hAll hRest
      · intro e t hEnd
        rcases hEnd with ⟨-, hOk, -⟩ | hOut
        · cases hOk
        · exact .stopped hOut

/-
  The final flush of a stopped run, from the moment at which it
  was stopped.
-/
def FlushedAll
    (m₀ : Moment)
    (r : Except Stop Unit)
    (m : Moment) : Prop :=
  ∃ ps : List PartitionKey,
    ps.Perm m₀.engine.workers.keys ∧
      FlushedEach ps ⟨m₀.engine, .closing :: m₀.history⟩ r m

theorem FlushedAll.eq_dropped
    {why : Stop}
    (hFlushed : FlushedAll m (.error why) m') :
    why = .dropped := by
  rcases hFlushed with ⟨ps, -, hEach⟩
  exact eq_dropped_of_flushMoves hEach.chain rfl

theorem ends_flushAll_inTurn
    (world : World σ)
    {s t : Session (σ × History)}
    (hBegun :
      t.moment = ⟨s.engine, .closing :: s.world.2⟩) :
    (Engine.flushAll world.recorded).Ends t
      (FlushedAll s.moment) := by
  unfold Engine.flushAll Engine.visited Activity.Ends
  simp only [Activity.leads_bind]
  rw [Activity.leads_engine]
  apply Activity.leads_quiet_call fun _ => rfl
  intro order u
  have hEngine : t.engine = s.engine :=
    congrArg Moment.engine hBegun
  have hPerm : order.1.Perm s.engine.workers.keys :=
    hEngine ▸ order.2
  have hEach :=
    ends_flushEach_inTurn world order.1
      ⟨t.engine, u, t.world.2⟩
  have hMoment :
      Session.moment ⟨t.engine, u, t.world.2⟩ =
        ⟨s.engine, .closing :: s.world.2⟩ :=
    hBegun
  rw [hMoment] at hEach
  apply Activity.Leads.mono hEach
  · intro _ v hFlushed
    exact ⟨order.1, hPerm, hFlushed⟩
  · intro e v hFlushed
    exact ⟨order.1, hPerm, hFlushed⟩

------------------------------------------------------------
-- Ended Runs
------------------------------------------------------------

/- A run that ended after its final flush. -/
def Engine.RunEnd.IsClosed : Engine.RunEnd → Prop
| .stopped => True
| .failed _ => True
| .fault _ => False
| .unfinished => False

/-
  How a run ends, given how its steps ended and the moment
  they left behind.
-/
inductive Ended :
    Except Stop Unit → Moment → Engine.RunEnd → Moment → Prop
| unfinished (m : Moment) :
    Ended (.ok ()) m .unfinished m
| faulted (fault : Fault) (m : Moment) :
    Ended (.error (.fault fault)) m (.fault fault) m
| closed
    {why : Stop}
    {m₀ m : Moment}
    {r : Except Stop Unit}
    {metrics : Metrics}
    (hWhy : ∀ fault, why ≠ .fault fault)
    (hFlushed : FlushedAll m₀ r m)
    (hGauged : m.engine.Gauged metrics) :
    Ended (.error why) m₀ (.ofStop why)
      ⟨{ m.engine with
          metrics := metrics
          health := m.engine.health.consumerStopped },
        m.history⟩
| overflowed
    {why : Stop}
    {m₀ m : Moment}
    {r : Except Stop Unit}
    (metrics : Metrics)
    (fault : Fault)
    (hWhy : ∀ fault, why ≠ .fault fault)
    (hFlushed : FlushedAll m₀ r m)
    (hFault : m.engine.GaugesFail fault) :
    Ended (.error why) m₀ (.fault fault)
      ⟨{ m.engine with metrics := metrics }, m.history⟩

theorem ended_closing
    (world : World σ)
    (s : Session (σ × History))
    {why : Stop}
    (hWhy : ∀ fault, why ≠ .fault fault) :
    Ended (.error why) s.moment
      (Engine.closing world.recorded (.ofStop why) s).ending
      (Engine.closing world.recorded (.ofStop why) s).last.moment :=
    by
  have hFinish :
      (Engine.finish world.recorded).Leads s
        (fun _ t =>
          Ended (.error why) s.moment (.ofStop why) t.moment)
        (fun e t => ∃ fault,
          e = .fault fault ∧
            Ended (.error why) s.moment (.fault fault)
              t.moment) := by
    apply leads_finish_of world (R := FlushedAll s.moment)
    · intro t hBegun
      exact ends_flushAll_inTurn world hBegun
    · intro why' m hFlushed
      exact hFlushed.eq_dropped
    · intro r t metrics hFlushed hGauged
      exact .closed hWhy hFlushed hGauged
    · intro r t metrics fault hFlushed hFault
      exact ⟨fault, rfl,
        .overflowed metrics fault hWhy hFlushed hFault⟩
  unfold Engine.closing
  rcases hRun : (Engine.finish world.recorded).run.run s with
    ⟨r, t⟩
  cases r with
  | ok => exact hFinish.of_run_ok hRun
  | error e =>
      rcases hFinish.of_run_error hRun with ⟨fault, rfl, hEnded⟩
      exact hEnded

/- A run ends as its steps did, after a final flush. -/
theorem ended_run
    (world : World σ)
    (steps : Nat)
    (e : Engine)
    (s : σ)
    (h : History) :
    ∃ r t,
      (Engine.stepping world.recorded steps).run.run
          ⟨e.started, s, h⟩ = (r, t) ∧
        Ended r t.moment
          (Engine.run world.recorded steps e (s, h)).ending
          (Engine.run world.recorded steps e (s, h)).last.moment
          := by
  have hLoop :=
    Engine.loop_stepping world.recorded steps ⟨e.started, s, h⟩
  rcases hSteps :
      (Engine.stepping world.recorded steps).run.run
        ⟨e.started, s, h⟩ with ⟨r, t⟩
  refine ⟨r, t, rfl, ?_⟩
  rw [hSteps] at hLoop
  unfold Engine.run
  rw [hLoop.1, hLoop.2]
  cases r with
  | ok => exact .unfinished t.moment
  | error why =>
      cases why with
      | fault fault => exact .faulted fault t.moment
      | dropped => exact ended_closing world t nofun
      | failed cause => exact ended_closing world t nofun

end FragmentSink
