import FragmentSink.Proofs.Engine.Backing
import FragmentSink.Proofs.Engine.Halting
import FragmentSink.Proofs.Engine.Steps

/-
  A running engine is consistent at every wait and at its end.

  All that is done about the outcome of a flush names the
  partition of the worker that was flushed, and a failed batch
  always finds the offset it has to be consumed from again.
  What is kept for a partition is backed by its worker.

  Main declarations:
    * `Resumes`
    * `Consistent`
    * `consistent_of_run`
-/

namespace FragmentSink

open History

variable {σ : Type}
variable {p q : PartitionKey}
variable {w w' : Worker}
variable {h h' : History}
variable {m m' : Moment}
variable {r : Except Stop Unit}
variable {answer : FlushEnd}

------------------------------------------------------------
-- Rewinds
------------------------------------------------------------

/-
  The rewind that a history ends with, apart from the wait
  that follows it.
-/
def History.latestRewind :
    History → Option (PartitionKey × Int64)
| .sleep _ _ :: .rewind p offset _ :: _ => some (p, offset)
| .rewind p offset _ :: _ => some (p, offset)
| _ => none

/-
  A partition that was just sent back has a worker that knows
  where its stream resumes.
-/
def Resumes (m : Moment) : Prop :=
  ∀ p offset, latestRewind m.history = some (p, offset) →
    m.engine.redeliveryOf p = some offset

theorem Resumes.of_none
    (hNone : latestRewind m.history = none) :
    Resumes m := by
  intro p offset hLatest
  rw [hNone] at hLatest
  cases hLatest

theorem Resumes.of_some
    {offset : Int64}
    (hLatest : latestRewind m.history = some (p, offset))
    (hOffset : m.engine.redeliveryOf p = some offset) :
    Resumes m := by
  intro q target hEq
  rw [hLatest] at hEq
  cases hEq
  exact hOffset

/- A dropped commit ends with an upload. -/
theorem Uploaded.latestRewind_eq
    {batch : List Fragment}
    (hUploaded : Uploaded batch h .dropped h') :
    latestRewind h' = none := by
  cases hUploaded
  rfl

/- The events of a tick end with no rewind. -/
theorem Worker.Ticked.latestRewind_eq
    (hTicked : w.Ticked h answer w' h') :
    latestRewind h' = none := by
  cases hTicked with
  | idle => rfl
  | ready now reason hReason hFlushed =>
      cases hFlushed with
      | empty => rfl
      | durable => rfl
      | failed => rfl
      | dropped first rest uploads hPending hUploaded =>
          exact hUploaded.latestRewind_eq

theorem Settled.resumes
    {elapsed : Span}
    (hSettled : Settled p elapsed m answer r m')
    (hNone : latestRewind m.history = none) :
    Resumes m' := by
  cases hSettled with
  | nothing => exact .of_none hNone
  | acknowledged => exact .of_none rfl
  | unacknowledged => exact .of_none rfl
  | lost => exact .of_none rfl
  | halted => exact .of_none rfl
  | unsent n backoff offset cause hAction hOffset =>
      exact .of_some rfl hOffset
  | untracked n backoff offset fault hAction hOffset =>
      exact .of_some rfl hOffset
  | waited n backoff offset offsets a hAction hOffset =>
      exact .of_some rfl hOffset

theorem Worked.resumes
    (hWorked : Worked p w m r m') :
    Resumes m' := by
  cases hWorked with
  | settled elapsed hTicked hAnswer hSettled =>
      exact hSettled.resumes hTicked.latestRewind_eq
  | cut hTicked => exact .of_none hTicked.latestRewind_eq

/- After every move, a partition that was just sent back resumes. -/
theorem Move.resumes
    (hMove : Move m r m')
    (hResumes : Resumes m) :
    Resumes m' := by
  cases hMove with
  | delivered hReadied hRouted hWorked => exact hWorked.resumes
  | ticked hWorker hWorked => exact hWorked.resumes
  | misrouted hReadied =>
      cases hReadied <;> exact .of_none rfl
  | gauged => exact hResumes
  | overflowed => exact hResumes
  | unpolled => exact .of_none rfl
  | quiet => exact .of_none rfl
  | troubled => exact .of_none rfl
  | broken => exact .of_none rfl
  | released => exact .of_none rfl
  | unassigned => exact .of_none rfl

------------------------------------------------------------
-- Routing
------------------------------------------------------------

/- Sums and differences fail for their size alone. -/
theorem Word.addNat_ne_misrouted (a b : UInt64) :
    addNat a b ≠ .error .misrouted := by
  unfold addNat
  split <;> simp

theorem Word.addInt_ne_misrouted (a b : Int64) :
    addInt a b ≠ .error .misrouted := by
  unfold addInt
  split <;> simp

theorem Word.subInt_ne_misrouted (a b : Int64) :
    subInt a b ≠ .error .misrouted := by
  unfold subInt
  split <;> simp

theorem Engine.sumBuffered_ne_misrouted
    (ws : List Worker)
    (fragments bytes : UInt64) :
    sumBuffered fragments bytes ws ≠ .error .misrouted := by
  induction ws generalizing fragments bytes with
  | nil => simp [sumBuffered]
  | cons w ws ih =>
      unfold sumBuffered
      split
      case h_1 => exact ih _ _
      case h_2 hFault =>
        rintro ⟨⟩
        exact Word.addNat_ne_misrouted _ _ hFault
      case h_3 hFault hOther =>
        rintro ⟨⟩
        exact Word.addNat_ne_misrouted _ _ hFault

theorem OffsetTracker.lag_ne_misrouted
    (o : OffsetTracker)
    (p : PartitionKey) :
    o.lag p ≠ .error .misrouted := by
  unfold lag
  split
  case h_1 => simp
  case h_2 current hCurrent =>
    unfold lagBetween
    cases hLag :
        Word.subInt current ((o.committed? p).getD (-1)) with
    | ok lag => simp [Except.map]
    | error fault =>
        rintro ⟨⟩
        exact Word.subInt_ne_misrouted _ _ hLag

theorem OffsetTracker.sumLags_ne_misrouted
    (o : OffsetTracker)
    (ps : List PartitionKey)
    (total : Int64) :
    o.sumLags total ps ≠ .error .misrouted := by
  induction ps generalizing total with
  | nil => simp [sumLags]
  | cons p ps ih =>
      unfold sumLags
      split
      case h_1 fault hFault =>
        rintro ⟨⟩
        exact o.lag_ne_misrouted p hFault
      case h_2 => exact ih total
      case h_3 lag hLag =>
        split
        case h_1 fault hFault =>
          rintro ⟨⟩
          exact Word.addInt_ne_misrouted _ _ hFault
        case h_2 next hNext => exact ih next

/- Gauges fail for their sums alone. -/
theorem Engine.not_gaugesFail_misrouted (e : Engine) :
    ¬ e.GaugesFail .misrouted := by
  rintro (hSums | hLag)
  · exact sumBuffered_ne_misrouted _ _ _ hSums
  · exact e.offsets.sumLags_ne_misrouted _ _ hLag

theorem Settled.routed
    {elapsed : Span}
    (hSettled : Settled p elapsed m answer r m') :
    r ≠ .error (.fault .misrouted) := by
  cases hSettled with
  | waited n backoff offset offsets a => cases a <;> simp [Awaited.ending]
  | untracked n backoff offset fault hAction hOffset hFault =>
      rintro ⟨⟩
      exact Word.subInt_ne_misrouted _ _
        (OffsetTracker.subInt_of_rewind hFault)
  | _ => simp

/- No fragment is handed to the worker of another partition. -/
theorem Move.routed
    (hMove : Move m r m')
    (hEngine : m.engine.Keyed) :
    r ≠ .error (.fault .misrouted) := by
  have hWorked
      {p : PartitionKey}
      {w : Worker}
      {m m' : Moment}
      {r : Except Stop Unit}
      (hWorked : Worked p w m r m') :
      r ≠ .error (.fault .misrouted) := by
    cases hWorked with
    | settled elapsed hTicked hAnswer hSettled =>
        exact hSettled.routed
    | cut => simp
  cases hMove with
  | delivered hReadied hRouted hWork => exact hWorked hWork
  | ticked hWorker hWork => exact hWorked hWork
  | misrouted hReadied hMisrouted =>
      have hKeyed := (hReadied.keyed hEngine).1
      exact absurd hKeyed.partition.symm hMisrouted
  | overflowed metrics fault hFault =>
      rintro ⟨⟩
      exact m.engine.not_gaugesFail_misrouted hFault
  | troubled cause backoff answer =>
      cases answer <;> simp [Awaited.ending]
  | _ => simp

------------------------------------------------------------
-- Consistent Engines
------------------------------------------------------------

/-
  An engine is consistent at a moment of its loop, with how the
  latest move ended.  What it keeps for a partition is backed,
  a budget has counted the partition's own failures and is not
  spent while the loop goes on, and every failed commit is
  answered by a rewind to the first offset of its batch unless
  it halts the engine.
-/
structure Consistent
    (policy : RetryPolicy)
    (r : Except Stop Unit)
    (m : Moment) : Prop where
  keyed : m.engine.Keyed
  backed : ∀ p, Backed p m
  counted :
    ∀ p b, m.engine.failures.get? p = some b →
      b.failures.toNat = failuresInRow p m.history
  left :
    r ≠ .error .halt →
      ∀ p b, m.engine.failures.get? p = some b →
        b.failures < policy.maxRetries
  routed : r ≠ .error (.fault .misrouted)
  resumes : Resumes m
  reacted :
    ∀ f bad rest earlier,
      m.history = rest ++ .upload f bad :: earlier →
      bad.Fails →
      ∃ later answer r',
        rest = later ++ answer ∧
          Reaction policy f.partitionKey (batchStart f earlier)
            (failuresInRow f.partitionKey earlier + 1) r' answer ∧
          (r' = .ok () ∨ later = [] ∧ r' = r)
  rewound :
    ∀ p target answer rest earlier,
      m.history = rest ++ .rewind p target answer :: earlier →
      ∃ n now f bad before,
        earlier =
            .noise n :: .clock now :: .upload f bad :: before ∧
          Event.Fails p (.upload f bad) ∧
          target = batchStart f before

section Consistent

variable {policy : RetryPolicy}
variable {start : Moment}

/- A budget is not spent unless the engine is halted over it. -/
theorem Tallied.left
    (hTallied : Tallied policy p r m)
    (hPolicy : 1 ≤ policy.maxRetries.toNat)
    (hGoesOn : r ≠ .error .halt) :
    failuresInRow p m.history < policy.maxRetries.toNat := by
  rcases hTallied.budgeted with ⟨r', hBudgeted, hEnd⟩
  rcases hBudgeted.lt_or_halted hPolicy (List.nil_append _).symm
    with hLeft | ⟨-, hHalts, -⟩
  · exact hLeft
  · rcases hEnd with hOk | hSame
    · cases hOk.symm.trans hHalts
    · exact absurd (hSame.symm.trans hHalts) hGoesOn

theorem Reaches.routed
    (hReaches : Reaches start (.after r) m)
    (hKeyed : start.engine.Keyed) :
    r ≠ .error (.fault .misrouted) :=
  hReaches.loop_induction
    (motive := fun r _ => r ≠ .error (.fault .misrouted))
    (by simp)
    fun _ _ _ hBefore _ hMove =>
      hMove.routed (hBefore.keyed hKeyed)

/- Every moment of a loop is consistent. -/
theorem Reaches.consistent
    (hReaches : Reaches start (.after r) m)
    (hKeyed : start.engine.Keyed)
    (hBacked : ∀ p, Backed p start)
    (hSpared : ∀ p, Spared policy p start)
    (hResumes : Resumes start)
    (hPolicy : 1 ≤ policy.maxRetries.toNat) :
    Consistent policy r m := by
  have hTallied (p : PartitionKey) :=
    hReaches.tallied hKeyed (hSpared p) hPolicy
  have hBudget
      (p : PartitionKey)
      (b : FailureBudget)
      (hFound : m.engine.failures.get? p = some b) :
      b.failures.toNat = failuresInRow p m.history := by
    have hCounted := (hTallied p).toNat_failures hPolicy
    rw [Engine.budgetOf, hFound] at hCounted
    exact hCounted
  have hResumed : Resumes m :=
    hReaches.loop_induction (motive := fun _ => Resumes)
      hResumes fun _ _ _ _ hBefore hMove => hMove.resumes hBefore
  refine ⟨hReaches.keyed hKeyed,
    fun p => hReaches.backed hKeyed (hBacked p),
    hBudget, ?_, hReaches.routed hKeyed, hResumed, ?_, ?_⟩
  · intro hGoesOn p b hFound
    have hLeft := (hTallied p).left hPolicy hGoesOn
    rw [UInt32.lt_iff_toNat_lt, hBudget p b hFound]
    exact hLeft
  · intro f bad rest earlier hSplit hBad
    rcases (hTallied f.partitionKey).budgeted with
      ⟨r', hBudgeted, hEnd⟩
    rcases hBudgeted.reacted hSplit ⟨rfl, hBad⟩ with
      ⟨later, answer, r'', hRest, hReaction, hLast⟩
    refine ⟨later, answer, r'', hRest, hReaction, ?_⟩
    rcases hLast with hOk | ⟨hNewest, hSame⟩
    · exact .inl hOk
    · exact hEnd.imp hSame.trans fun hLoop =>
        ⟨hNewest, hSame.trans hLoop⟩
  · intro p target answer rest earlier hSplit
    rcases (hTallied p).budgeted with ⟨r', hBudgeted, -⟩
    exact hBudgeted.rewound hSplit

/- A run that is concluded has kept its workers to their partitions. -/
theorem Concludes.kept
    {ending : Engine.RunEnd}
    (hConcludes : Concludes start ending m)
    (hKeyed : start.engine.Keyed)
    (hBacked : ∀ p, Backed p start) :
    ending ≠ .fault .misrouted ∧ m.engine.Keyed ∧
      ∀ p, Backed p m := by
  have hReached
      {phase : Phase}
      {m : Moment}
      (hReaches : Reaches start phase m) :
      m.engine.Keyed ∧ ∀ p, Backed p m :=
    ⟨hReaches.keyed hKeyed,
      fun p => hReaches.backed hKeyed (hBacked p)⟩
  have hRouted
      {why : Stop}
      {m : Moment}
      (hReaches : Reaches start (.after (.error why)) m) :
      why ≠ .fault .misrouted := by
    rintro rfl
    exact hReaches.routed hKeyed rfl
  cases hConcludes with
  | unfinished hReaches => exact ⟨by simp, hReached hReaches⟩
  | faulted hReaches =>
      refine ⟨?_, hReached hReaches⟩
      rintro ⟨⟩
      exact hRouted hReaches rfl
  | @closed m why metrics hReaches =>
      rcases hReached hReaches with ⟨hWorkers, hKept⟩
      rcases hReaches.closed hKeyed with ⟨m₀, hStopped, -⟩
      refine ⟨?_, hWorkers,
        fun p => (hKept p).of_eq rfl rfl rfl rfl rfl⟩
      have hWhy := hRouted hStopped
      cases why with
      | fault fault =>
          rintro ⟨⟩
          exact hWhy rfl
      | _ => simp [Engine.RunEnd.ofStop]
  | overflowed metrics fault hReaches hFault =>
      rcases hReached hReaches with ⟨hWorkers, hKept⟩
      refine ⟨?_, hWorkers,
        fun p => (hKept p).of_eq rfl rfl rfl rfl rfl⟩
      rintro ⟨⟩
      exact Engine.not_gaugesFail_misrouted _ hFault

end Consistent

/- The engine of a configuration is fresh and has a budget. -/
theorem Engine.eq_fresh_of_ofSettings
    {settings : Settings}
    {e : Engine}
    (hEngine : ofSettings settings = .ok e) :
    e = fresh settings ∧ 1 ≤ e.policy.maxRetries.toNat := by
  unfold ofSettings Settings.validate at hEngine
  cases hRule : settings.complaint? with
  | some why => simp [hRule, Except.map] at hEngine
  | none =>
      rw [hRule] at hEngine
      cases hEngine
      refine ⟨rfl, ?_⟩
      have hSome : settings.buffer.maxConsecutiveFailures ≠ 0 := by
        intro hZero
        grind [Settings.complaint?]
      have hCount :
          settings.buffer.maxConsecutiveFailures.toNat ≠ 0 :=
        fun hZero => hSome (UInt32.toNat_inj.mp hZero)
      exact Nat.one_le_iff_ne_zero.mpr hCount

/-
  Every engine is consistent after any number of its steps, and
  so it is at the wait at which a step is dropped.  Nor does
  the final flush of a run leave anything behind that belongs
  to no worker.
-/
theorem consistent_of_run
    (world : World σ)
    {settings : Settings}
    {e : Engine}
    (hEngine : Engine.ofSettings settings = .ok e)
    (steps : Nat)
    (s : σ) :
    (∀ r t,
        (Engine.stepping world.recorded steps).run.run
            ⟨e.started, s, []⟩ = (r, t) →
          Consistent e.policy r t.moment) ∧
      ∀ run,
        Engine.run world.recorded steps e (s, []) = run →
          run.ending ≠ .fault .misrouted ∧
            run.last.engine.Keyed ∧
            ∀ p, Backed p run.last.moment := by
  rcases Engine.eq_fresh_of_ofSettings hEngine with
    ⟨rfl, hPolicy⟩
  have hKeyed : (Engine.fresh settings).started.Keyed := nofun
  have hBacked (p : PartitionKey) :
      Backed p ⟨(Engine.fresh settings).started, []⟩ :=
    .of_none rfl rfl rfl rfl (List.forall_mem_nil _)
  have hSpared (p : PartitionKey) :
      Spared (Engine.fresh settings).policy p
        ⟨(Engine.fresh settings).started, []⟩ :=
    ⟨⟨rfl, rfl⟩, .fresh⟩
  refine ⟨?_, ?_⟩
  · intro r t hSteps
    exact (reaches_stepping world steps hSteps).consistent hKeyed
      hBacked hSpared (.of_none rfl) hPolicy
  · rintro run rfl
    exact (run_reaches world steps (.fresh settings) s []).2.kept
      hKeyed hBacked

/- A batch fails and is waited for, and the wait is dropped. -/
def interruptedScript : Script where
  polls :=
    [3, 4].map fun offset => .fragment (Script.fragment offset)
  uploads := [.stored, .refused]
  assigned := [Script.partition]

/- The world of a script, in which every wait is dropped. -/
def restlessWorld : World Script :=
  { Script.world with sleep := fun _ s => (.dropped, s) }

@[irreducible] def interruptedRun :
    Except Stop Unit × Session (Script × History) :=
  (Engine.stepping restlessWorld.recorded 9).run.run
    ⟨(Engine.fresh failingSettings).started, interruptedScript, []⟩

theorem consistent_of_interruptedRun :
    Engine.ofSettings failingSettings =
        .ok (.fresh failingSettings) ∧
      interruptedRun.1 = .error .dropped ∧
      latestRewind interruptedRun.2.moment.history =
        some (Script.partition, 3) ∧
      Consistent (.forBufferCommit 2) interruptedRun.1
        interruptedRun.2.moment := by
  have hEngine :
      Engine.ofSettings failingSettings =
        .ok (.fresh failingSettings) :=
    rfl
  have hSteps :
      (Engine.stepping restlessWorld.recorded 9).run.run
          ⟨(Engine.fresh failingSettings).started,
            interruptedScript, []⟩ =
        (interruptedRun.1, interruptedRun.2) := by
    rw [Prod.eta, interruptedRun]
  refine ⟨hEngine, ?_, ?_, ?_⟩
  · decide +kernel
  · decide +kernel
  · exact (consistent_of_run restlessWorld hEngine 9
      interruptedScript).1 _ _ hSteps

end FragmentSink
