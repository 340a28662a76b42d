import FragmentSink.Proofs.Engine.Budgets
import FragmentSink.Proofs.Engine.Closing
import FragmentSink.Proofs.Script

/-
  An engine halts exactly when the failure budget of one of
  its partitions is spent.

  Main declarations:
    * `Engine.Reports`
    * `Move.spent_or_reported`
    * `HaltsOnTime`
    * `haltsOnTime_run`
-/

namespace FragmentSink

open History

variable {σ : Type}
variable {p : PartitionKey}
variable {policy : RetryPolicy}
variable {f : Fragment}
variable {w : Worker}
variable {m m₁ m' : Moment}
variable {r : Except Stop Unit}

------------------------------------------------------------
-- Reports
------------------------------------------------------------

/- The status of a storage while a failed batch is awaited again. -/
def Engine.retrying : ComponentStatus :=
  .degraded "Buffer commit failed, retrying"

/- An engine that keeps a budget for some partition reports it. -/
def Engine.Reports (e : Engine) : Prop :=
  ∀ q, e.failures.get? q ≠ none →
    e.health.status? Component.storage.name =
      some Engine.retrying

/- The budget of a partition is spent. -/
def Engine.Spent (e : Engine) (q : PartitionKey) : Prop :=
  (e.budgetOf q).policy.maxRetries ≤ (e.budgetOf q).failures

/- An answer of the source carries an error of its own. -/
def Event.Carries (cause : Error) : Event → Prop
| .poll (.done (.failed c _ _)) => c = cause
| .commit _ (.done (.error c)) => c = cause
| .rewind _ _ (.error c) => c = cause
| _ => False

/- The stop of an engine that gives a partition up. -/
def Stop.halt : Stop :=
  .failed .bufferCommitFailed

section Halt

/- An activity that goes on, is dropped or faults does not halt. -/
theorem ok_ne_halt :
    (.ok () : Except Stop Unit) ≠ .error .halt := by
  intro hHalt
  cases hHalt

theorem dropped_ne_halt :
    (.error .dropped : Except Stop Unit) ≠ .error .halt := by
  intro hHalt
  cases hHalt

theorem fault_ne_halt (fault : Fault) :
    (.error (.fault fault) : Except Stop Unit) ≠
      .error .halt := by
  intro hHalt
  cases hHalt

theorem ending_ne_halt (answer : Awaited Unit) :
    answer.ending ≠ .error .halt := by
  cases answer with
  | done => exact ok_ne_halt
  | dropped => exact dropped_ne_halt

end Halt

/-
  A move does not halt the engine.  It keeps what is reported,
  and it stops with the error of a halt only where the source
  answered with that very error.
-/
structure Reported
    (r : Except Stop Unit)
    (m m' : Moment) : Prop where
  reports : m.engine.Reports → m'.engine.Reports
  carried :
    r = .error .halt →
      ∃ e h, m'.history = e :: h ∧ e.Carries .bufferCommitFailed

theorem Reported.of_ne
    (hReports : m.engine.Reports → m'.engine.Reports)
    (hNoHalt : r ≠ .error .halt) :
    Reported r m m' :=
  ⟨hReports, fun hHalt => absurd hHalt hNoHalt⟩

theorem Table.get?_eq_none_of_isEmpty
    {κ α : Type}
    [DecidableEq κ]
    {t : Table κ α}
    (k : κ)
    (hEmpty : t.isEmpty = true) :
    t.get? k = none := by
  have hEntries := List.isEmpty_iff.mp hEmpty
  rw [Table.get?, hEntries]
  rfl

theorem Table.isEmpty_iff
    {κ α : Type}
    [DecidableEq κ]
    {t : Table κ α} :
    t.isEmpty = true ↔ ∀ k, t.get? k = none := by
  constructor
  · intro hEmpty k
    exact Table.get?_eq_none_of_isEmpty k hEmpty
  · intro hNone
    rw [Table.isEmpty, List.isEmpty_iff]
    apply List.eq_nil_iff_forall_not_mem.mpr
    intro e hEntry
    cases (hNone e.1).symm.trans (Table.get?_of_mem hEntry)

/- A partition that stops failing leaves the reports of the others. -/
theorem Engine.Reports.recovered
    {e : Engine}
    (hReports : e.Reports) :
    (e.recovered p).Reports := by
  simp only [Engine.recovered]
  split
  case isTrue hEmpty =>
    intro q hEntry
    exact absurd (Table.get?_eq_none_of_isEmpty q hEmpty) hEntry
  case isFalse =>
    intro q hEntry
    apply hReports q
    intro hNone
    exact hEntry (by simp [hNone])

/- Whatever had been reported, a failure is. -/
theorem Engine.reports_failing
    (e : Engine)
    (p : PartitionKey)
    (elapsed : Span) :
    (e.failing p elapsed).Reports := by
  intro q _
  simp [Engine.failing, Engine.awaitingRedelivery, Engine.mark,
    Engine.retrying, Health.mark, Health.set, Health.status?,
    Component.name]

/- A status of the stream does not touch that of the storage. -/
theorem Engine.Reports.mark_kafka
    {e : Engine}
    {s : ComponentStatus}
    (hReports : e.Reports) :
    (e.mark .kafka s).Reports := by
  have hStatus :
      (e.mark .kafka s).health.status? Component.storage.name =
        e.health.status? Component.storage.name := by
    simp [Engine.mark, Health.mark, Health.set, Health.status?,
      Component.name]
  intro q hEntry
  exact hStatus.trans (hReports q hEntry)

/- A failure that is not retried has spent its budget. -/
theorem Engine.spent_of_halt
    (e : Engine)
    {n : UInt64}
    {consecutive : UInt32}
    (elapsed : Span)
    (hAction :
      (e.budgetOf p).countFailure.action n = .halt consecutive) :
    (e.noteFailure p elapsed).Spent p := by
  have hNoted := e.budgetOf_noteFailure p elapsed
  unfold FailureBudget.action at hAction
  split at hAction
  case isTrue hSpent =>
    unfold Engine.Spent
    rw [← hNoted] at hSpent
    exact hSpent
  case isFalse => cases hAction

/- An outcome that halts the engine spends the partition's budget. -/
theorem Settled.spent_or_reported
    {elapsed : Span}
    {answer : FlushEnd}
    (hSettled : Settled p elapsed m answer r m') :
    r = .error .halt ∧ m'.engine.Spent p ∨ Reported r m m' := by
  cases hSettled with
  | nothing => exact .inr (.of_ne id ok_ne_halt)
  | acknowledged b =>
      exact .inr (.of_ne
        (fun hReports => Engine.Reports.recovered hReports)
        ok_ne_halt)
  | unacknowledged b cause =>
      refine .inr ⟨Engine.Reports.mark_kafka, ?_⟩
      intro hHalt
      cases hHalt
      exact ⟨_, _, rfl, rfl⟩
  | lost b => exact .inr (.of_ne id dropped_ne_halt)
  | halted n consecutive hAction =>
      exact .inl ⟨rfl, m.engine.spent_of_halt elapsed hAction⟩
  | unsent n backoff offset cause =>
      refine .inr ⟨fun _ => m.engine.reports_failing p elapsed, ?_⟩
      intro hHalt
      cases hHalt
      exact ⟨_, _, rfl, rfl⟩
  | untracked n backoff offset fault =>
      exact .inr (.of_ne
        (fun _ => m.engine.reports_failing p elapsed)
        (fault_ne_halt fault))
  | waited n backoff offset offsets answer =>
      exact .inr (.of_ne
        (fun _ => m.engine.reports_failing p elapsed)
        (ending_ne_halt answer))

theorem Worked.spent_or_reported
    (hWorked : Worked p w m r m') :
    r = .error .halt ∧ m'.engine.Spent p ∨ Reported r m m' := by
  cases hWorked with
  | settled elapsed hTicked hAnswer hSettled =>
      refine hSettled.spent_or_reported.imp_right fun hReported => ?_
      exact ⟨fun hReports => hReported.reports hReports,
        hReported.carried⟩
  | cut => exact .inr (.of_ne id dropped_ne_halt)

theorem Readied.reports
    (hReadied : Readied p m w m₁)
    (hReports : m.engine.Reports) :
    m₁.engine.Reports := by
  cases hReadied with
  | kept => exact hReports
  | opened => exact hReports

/- A move halts the engine over a spent budget, or does not. -/
theorem Move.spent_or_reported
    (hMove : Move m r m') :
    (r = .error .halt ∧ ∃ q, m'.engine.Spent q) ∨
      Reported r m m' := by
  have hTaking
      {f : Fragment}
      (hReports : m.engine.Reports) :
      (m.engine.taking f).Reports :=
    hReports.mark_kafka
  cases hMove with
  | unpolled => exact .inr (.of_ne id dropped_ne_halt)
  | quiet => exact .inr (.of_ne id ok_ne_halt)
  | troubled cause backoff answer =>
      exact .inr (.of_ne Engine.Reports.mark_kafka
        (ending_ne_halt answer))
  | broken cause backoff =>
      refine .inr ⟨Engine.Reports.mark_kafka, ?_⟩
      intro hHalt
      cases hHalt
      exact ⟨_, _, rfl, rfl⟩
  | delivered hReadied hRouted hWorked =>
      rcases hWorked.spent_or_reported with ⟨hHalt, hSpent⟩ | hReported
      · exact .inl ⟨hHalt, _, hSpent⟩
      · exact .inr ⟨fun hReports =>
          hReported.reports (hReadied.reports (hTaking hReports)),
          hReported.carried⟩
  | misrouted hReadied =>
      exact .inr (.of_ne
        (fun hReports => hReadied.reports (hTaking hReports))
        (fault_ne_halt _))
  | released ps =>
      refine .inr (.of_ne (fun hReports q hEntry => ?_) ok_ne_halt)
      apply hReports q
      intro hNone
      exact hEntry (by simp [Engine.keepOnly, hNone])
  | unassigned => exact .inr (.of_ne id ok_ne_halt)
  | ticked hWorker hWorked =>
      rcases hWorked.spent_or_reported with ⟨hHalt, hSpent⟩ | hReported
      · exact .inl ⟨hHalt, _, hSpent⟩
      · exact .inr hReported
  | gauged => exact .inr (.of_ne id ok_ne_halt)
  | overflowed metrics fault =>
      exact .inr (.of_ne id (fault_ne_halt fault))

/- An engine reports the budgets it keeps, or has just spent one. -/
structure Reporting
    (r : Except Stop Unit)
    (m : Moment) : Prop where
  reports :
    m.engine.Reports ∨
      r = .error .halt ∧ ∃ q, m.engine.Spent q
  carried :
    r = .error .halt →
      (∃ q, m.engine.Spent q) ∨
        ∃ e h, m.history = e :: h ∧ e.Carries .bufferCommitFailed

theorem Move.reporting
    (hMove : Move m r m')
    (hReporting : Reporting (.ok ()) m) :
    Reporting r m' := by
  have hReports : m.engine.Reports := by
    rcases hReporting.reports with hReports | ⟨hHalt, -⟩
    · exact hReports
    · exact absurd hHalt ok_ne_halt
  rcases hMove.spent_or_reported with ⟨hHalt, hSpent⟩ | hReported
  · exact ⟨.inr ⟨hHalt, hSpent⟩, fun _ => .inl hSpent⟩
  · exact ⟨.inl (hReported.reports hReports),
      fun hHalt => .inr (hReported.carried hHalt)⟩

------------------------------------------------------------
-- Tallies and Reports
------------------------------------------------------------

namespace Tallied

/- A partition that has failed keeps a budget. -/
theorem get?_ne_none
    (hTallied : Tallied policy p r m)
    (hPolicy : 1 ≤ policy.maxRetries.toNat)
    (hFailed : 0 < failuresInRow p m.history) :
    m.engine.failures.get? p ≠ none := by
  intro hNone
  have hFresh :
      (m.engine.budgetOf p).failures.toNat = 0 := by
    rw [Engine.budgetOf, hNone]
    rfl
  rw [hTallied.toNat_failures hPolicy] at hFresh
  omega

/- A budget is spent when the failures are as many as it allows. -/
theorem eq_of_spent
    (hTallied : Tallied policy p r m)
    (hPolicy : 1 ≤ policy.maxRetries.toNat)
    (hSpent : m.engine.Spent p) :
    failuresInRow p m.history = policy.maxRetries.toNat := by
  have hFailures := hTallied.toNat_failures hPolicy
  unfold Engine.Spent at hSpent
  rw [UInt32.le_iff_toNat_le, hFailures, hTallied.budget_eq]
    at hSpent
  exact Nat.le_antisymm (hTallied.le hPolicy) hSpent

end Tallied

------------------------------------------------------------
-- Halting on Time
------------------------------------------------------------

/- What happened in a run before its final flush. -/
def Engine.Run.loop (run : Engine.Run (σ × History)) : History :=
  run.last.world.2.beforeClosing

/- What the status page of a session shows for the storage. -/
def Session.storage? (s : Session σ) : Option ComponentStatus :=
  s.engine.health.status? Component.storage.name

/-
  A run is halted over the failure of a partition that spent
  its budget: only the noise and the clock are still read, the
  partition is neither sent back nor acknowledged any more,
  and the storage is reported exhausted.
-/
structure HaltedOver
    (policy : RetryPolicy)
    (run : Engine.Run (σ × History))
    (p : PartitionKey)
    (rest earlier : History) : Prop where
  at_once : ∃ n now, rest <+: [.noise n, .clock now]
  ending : run.ending.IsFor run.last.engine .halt
  uncommitted : Uncommitted p earlier run.last.world.2
  storage :
    run.last.storage? = some (Engine.exhausted policy.maxRetries)

/-
  A run halts exactly when the failures of some partition in a
  row are as many as its policy allows, and reacts to every
  failure before that.
-/
structure HaltsOnTime
    (policy : RetryPolicy)
    (run : Engine.Run (σ × History)) : Prop where
  within :
    ∀ p rest earlier,
      run.loop = rest ++ earlier →
      failuresInRow p earlier ≤ policy.maxRetries.toNat
  halts :
    ∀ p rest earlier,
      run.loop = rest ++ earlier →
      failuresInRow p earlier = policy.maxRetries.toNat →
      HaltedOver policy run p rest earlier
  only :
    run.ending = .failed .bufferCommitFailed →
      (∃ p,
        failuresInRow p run.loop = policy.maxRetries.toNat) ∨
        ∃ e h, run.loop = e :: h ∧ e.Carries .bufferCommitFailed
  reacted :
    ∀ f bad rest earlier,
      run.loop = rest ++ .upload f bad :: earlier →
      bad.Fails →
      ∃ later answer r,
        rest = later ++ answer ∧
          Reaction policy f.partitionKey (batchStart f earlier)
            (failuresInRow f.partitionKey earlier + 1) r answer ∧
          ∀ why, r = .error why →
            later = [] ∧ run.ending.IsFor run.last.engine why
  rewound :
    ∀ p target answer rest earlier,
      run.loop = rest ++ .rewind p target answer :: earlier →
      ∃ n now f bad before,
        earlier =
            .noise n :: .clock now :: .upload f bad :: before ∧
          Event.Fails p (.upload f bad) ∧
          target = batchStart f before
  retrying :
    ∀ t ∈ run.atPolls, ∀ p,
      0 < failuresInRow p t.world.2 →
      t.storage? = some Engine.retrying
  left_retrying :
    ∀ p,
      0 < failuresInRow p run.loop →
      (∀ q, failuresInRow q run.loop < policy.maxRetries.toNat) →
      run.last.storage? = some Engine.retrying

section Looped

variable {start m₀ : Moment}
variable {run : Engine.Run (σ × History)}

/- A run whose loop was stopped ends for that reason. -/
theorem Looped.isFor
    {why : Stop}
    (hLooped :
      Looped start run.ending run.last.moment (.error why) m₀) :
    run.ending.IsFor run.last.engine why := by
  rcases hLooped.ended with ⟨hOk, -⟩ | ⟨found, hWhy, hEnding⟩
  · cases hOk
  · cases hWhy
    exact hEnding

/- The end of a run still shows the storage as its loop left it. -/
theorem Looped.storage?_eq
    (hLooped : Looped start run.ending run.last.moment r m₀) :
    run.last.storage? =
      m₀.engine.health.status? Component.storage.name :=
  congrArg (Table.get? · Component.storage.name)
    hLooped.components_eq

/- The loop of a run halted over a spent budget shows when it did. -/
theorem Looped.haltedOver
    {rest earlier : History}
    (hLooped : Looped start run.ending run.last.moment r m₀)
    (hTallied : Tallied policy p r m₀)
    (hPolicy : 1 ≤ policy.maxRetries.toNat)
    (hSplit : m₀.history = rest ++ earlier)
    (hSpent : failuresInRow p earlier = policy.maxRetries.toNat) :
    HaltedOver policy run p rest earlier := by
  rcases hTallied.budgeted with ⟨r', hBudgeted, hLatest⟩
  rcases hBudgeted.lt_or_halted hPolicy hSplit with
    hLeft | ⟨-, rfl, n, now, hPrefix⟩
  · exact absurd hSpent (Nat.ne_of_lt hLeft)
  · have hQuiet (e : Event) (he : e ∈ rest) :
        e = .noise n ∨ e = .clock now := by
      simpa using hPrefix.subset he
    have hCalm : Grows (Event.Calm p) earlier m₀.history := by
      refine ⟨rest, hSplit, fun e he => ?_⟩
      rcases hQuiet e he with rfl | rfl <;> exact ⟨id, id, id⟩
    have hSilent : Uncommitted p earlier m₀.history := by
      refine ⟨rest, hSplit, fun e he => ?_⟩
      rcases hQuiet e he with rfl | rfl <;> exact id
    have hStill :
        failuresInRow p m₀.history = policy.maxRetries.toNat :=
      (failuresInRow_grows hCalm).trans hSpent
    rcases hTallied.halted hStill with ⟨hIdle, hExhausted⟩
    refine ⟨⟨n, now, hPrefix⟩, ?_,
      hSilent.trans (hLooped.idle p hIdle),
      hLooped.storage?_eq.trans hExhausted⟩
    rcases hLatest with hOk | rfl
    · cases hOk
    · exact hLooped.isFor

theorem Looped.reacted
    {bad : UploadEnd}
    {rest earlier : History}
    (hLooped : Looped start run.ending run.last.moment r m₀)
    (hTallied : Tallied policy f.partitionKey r m₀)
    (hSplit : m₀.history = rest ++ .upload f bad :: earlier)
    (hBad : bad.Fails) :
    ∃ later answer r',
      rest = later ++ answer ∧
        Reaction policy f.partitionKey (batchStart f earlier)
          (failuresInRow f.partitionKey earlier + 1) r' answer ∧
        ∀ why, r' = .error why →
          later = [] ∧ run.ending.IsFor run.last.engine why := by
  rcases hTallied.budgeted with ⟨latest, hBudgeted, hLatest⟩
  rcases hBudgeted.reacted hSplit ⟨rfl, hBad⟩ with
    ⟨later, answer, r', hRest, hReaction, hGoesOn⟩
  refine ⟨later, answer, r', hRest, hReaction, ?_⟩
  rintro why rfl
  rcases hGoesOn with hOk | ⟨hLast, rfl⟩
  · cases hOk
  · refine ⟨hLast, ?_⟩
    rcases hLatest with hOk | rfl
    · cases hOk
    · exact hLooped.isFor

/- A run that ends with the error of a halt had been stopped by it. -/
theorem Looped.eq_halt
    (hLooped : Looped start run.ending run.last.moment r m₀)
    (hEnding : run.ending = .failed .bufferCommitFailed) :
    r = .error .halt := by
  rw [hEnding] at hLooped
  rcases hLooped.ended with ⟨-, hUnfinished⟩ |
    ⟨why, rfl, hStop | ⟨fault, hFault, -⟩⟩
  · cases hUnfinished
  · cases why with
    | failed cause =>
        cases hStop
        rfl
    | fault => cases hStop
    | dropped => cases hStop
  · cases hFault

/- What is known of a loop comes to a run that halts on time. -/
theorem Looped.haltsOnTime
    (hLooped : Looped start run.ending run.last.moment r m₀)
    (hTallied : ∀ p, Tallied policy p r m₀)
    (hReporting : Reporting r m₀)
    (hPolicy : 1 ≤ policy.maxRetries.toNat)
    (hPolls :
      ∀ t ∈ run.atPolls, ∀ p,
        0 < failuresInRow p t.world.2 →
          t.storage? = some Engine.retrying) :
    HaltsOnTime policy run := by
  have hLoop : run.loop = m₀.history := hLooped.loop_eq
  refine ⟨?_, ?_, ?_, ?_, ?_, hPolls, ?_⟩
  · intro p rest earlier hSplit
    rcases (hTallied p).budgeted with ⟨latest, hBudgeted, -⟩
    rw [hLoop] at hSplit
    rcases hBudgeted.lt_or_halted hPolicy hSplit with
      hLeft | ⟨hSpent, -⟩
    · exact Nat.le_of_lt hLeft
    · exact Nat.le_of_eq hSpent
  · intro p rest earlier hSplit hSpent
    rw [hLoop] at hSplit
    exact hLooped.haltedOver (hTallied p) hPolicy hSplit hSpent
  · intro hEnding
    rw [hLoop]
    rcases hReporting.carried (hLooped.eq_halt hEnding) with
      ⟨p, hSpent⟩ | hCarried
    · exact .inl ⟨p, (hTallied p).eq_of_spent hPolicy hSpent⟩
    · exact .inr hCarried
  · intro f bad rest earlier hSplit hBad
    rw [hLoop] at hSplit
    exact hLooped.reacted (hTallied f.partitionKey) hSplit hBad
  · intro p target answer rest earlier hSplit
    rw [hLoop] at hSplit
    rcases (hTallied p).budgeted with ⟨latest, hBudgeted, -⟩
    exact hBudgeted.rewound hSplit
  · intro p hFailed hLeft
    rw [hLoop] at hFailed
    have hEntry := (hTallied p).get?_ne_none hPolicy hFailed
    rcases hReporting.reports with hReports | ⟨-, q, hSpent⟩
    · exact hLooped.storage?_eq.trans (hReports p hEntry)
    · have hFull := (hTallied q).eq_of_spent hPolicy hSpent
      have hFew := hLeft q
      rw [hLoop, hFull] at hFew
      exact absurd hFew (Nat.lt_irrefl _)

end Looped

/- At every moment of a loop, all budgets are tallied. -/
theorem Reaches.tallied
    {start : Moment}
    (hReaches : Reaches start (.after r) m)
    (hKeyed : start.engine.Keyed)
    (hStart : Spared policy p start)
    (hPolicy : 1 ≤ policy.maxRetries.toNat) :
    Tallied policy p r m :=
  hReaches.loop_induction (hStart.tallied hPolicy)
    fun _ _ _ hBefore hTallied hMove =>
      hMove.tallied (hBefore.keyed hKeyed) hTallied hPolicy

theorem Reaches.reporting
    {start : Moment}
    (hReaches : Reaches start (.after r) m)
    (hStart : start.engine.Reports) :
    Reporting r m :=
  hReaches.loop_induction
    ⟨.inl hStart, fun hHalt => absurd hHalt ok_ne_halt⟩
    fun _ _ _ _ hReporting hMove => hMove.reporting hReporting

/-
  Every run halts on time: it stops with a failed commit at
  the first moment at which the failures of some partition in
  a row are as many as its settings allow, and no sooner.
-/
theorem haltsOnTime_run
    (world : World σ)
    (settings : Settings)
    (steps : Nat)
    (s : σ)
    (hBudget : 1 ≤ settings.buffer.maxConsecutiveFailures.toNat) :
    HaltsOnTime
      (.forBufferCommit settings.buffer.maxConsecutiveFailures)
      (Engine.run world.recorded steps (.fresh settings)
        (s, [])) := by
  have hKeyed : (Engine.fresh settings).started.Keyed := nofun
  have hReports : (Engine.fresh settings).started.Reports :=
    fun q hEntry => absurd rfl hEntry
  have hSpared (p : PartitionKey) :
      Spared
        (.forBufferCommit settings.buffer.maxConsecutiveFailures) p
        ⟨(Engine.fresh settings).started, []⟩ :=
    ⟨⟨rfl, rfl⟩, .fresh⟩
  rcases run_reaches world steps (.fresh settings) s [] with
    ⟨hPolls, hConcludes⟩
  rcases hConcludes.looped hKeyed rfl with ⟨r, m₀, hLooped⟩
  apply hLooped.haltsOnTime
    (fun p => hLooped.reaches.tallied hKeyed (hSpared p) hBudget)
    (hLooped.reaches.reporting hReports) hBudget
  intro t hPoll p hFailed
  have hLoop :
      Reaches ⟨(Engine.fresh settings).started, []⟩
        (.after (.ok ())) t.moment :=
    hPolls t hPoll
  have hEntry :=
    (hLoop.tallied hKeyed (hSpared p) hBudget).get?_ne_none
      hBudget hFailed
  rcases (hLoop.reporting hReports).reports with
    hReport | ⟨hHalt, -⟩
  · exact hReport p hEntry
  · exact absurd hHalt ok_ne_halt

/-
  A partition fails, is acknowledged, and then fails twice in
  a row, which is once too often.
-/
def failingSettings : Settings :=
  { Script.settings with
    buffer := { messageCount := 2, maxConsecutiveFailures := 2 } }

def failingScript : Script where
  polls :=
    [3, 4, 3, 4, 6, 7, 6, 7].map fun offset =>
      .fragment (Script.fragment offset)
  uploads :=
    [.refused, .stored, .stored, .stored, .refused, .expired]
  assigned := [Script.partition]

@[irreducible] def haltedRun : Engine.Run (Script × History) :=
  Engine.run Script.world.recorded 9 (.fresh failingSettings)
    (failingScript, [])

theorem haltsOnTime_haltedRun :
    1 ≤ failingSettings.buffer.maxConsecutiveFailures.toNat ∧
      haltedRun.ending = .failed .bufferCommitFailed ∧
      haltedRun.atPolls.map
          (fun t => failuresInRow Script.partition t.world.2) =
        [0, 0, 1, 1, 0, 0, 1, 1] ∧
      failuresInRow Script.partition haltedRun.loop = 2 ∧
      HaltsOnTime (.forBufferCommit 2) haltedRun := by
  refine ⟨?_, ?_, ?_, ?_, ?_⟩
  · decide
  · decide +kernel
  · decide +kernel
  · decide +kernel
  · rw [haltedRun]
    exact haltsOnTime_run Script.world failingSettings 9
      failingScript (by decide)

end FragmentSink
