import FragmentSink.Proofs.Engine.Attempts
import FragmentSink.Proofs.Engine.Consistency
import FragmentSink.Proofs.Engine.Outlines

/-
  When a storage that failed is reported healthy again.

  A failed batch degrades the storage and the buffer.  They
  recover with the acknowledgement after which no partition is
  failing.  Where the last failing partition is taken away
  instead, they stay degraded until the next acknowledgement.

  Main declarations:
    * `Abandoned`
    * `Recovers`
    * `Turns`
    * `recovers_of_run`
-/

namespace FragmentSink

open History

variable {σ : Type}
variable {p : PartitionKey}
variable {policy : RetryPolicy}
variable {e : Event}
variable {h h' : History}
variable {w : Worker}
variable {m m₁ m' start : Moment}
variable {r : Except Stop Unit}
variable {answer : FlushEnd}

------------------------------------------------------------
-- Abandoned Failures
------------------------------------------------------------

/- Some partition has failed and was not cleared since. -/
def Failing (h : History) : Prop :=
  ∃ q, 0 < failuresInRow q h

/-
  An assignment took the last failing partition away, and
  nothing has been acknowledged since.
-/
inductive Abandoned : History → Prop
| here
    (ps : List PartitionKey)
    {h : History}
    (hFailing : Failing h)
    (hGone : ¬ Failing (.assigned (.ok ps) :: h)) :
    Abandoned (.assigned (.ok ps) :: h)
| since
    {e : Event}
    {h : History}
    (hBefore : Abandoned h)
    (hEvent : e.acknowledges = false) :
    Abandoned (e :: h)

/- The events that neither acknowledge nor take anything away. -/
def Event.Retains : Event → Prop
| .commit _ (.done (.ok _)) => False
| .assigned (.ok _) => False
| _ => True

theorem Event.Retains.not_acknowledges
    (hRetains : e.Retains) :
    e.acknowledges = false := by
  cases hAcknowledges : e.acknowledges with
  | false => rfl
  | true =>
      unfold acknowledges at hAcknowledges
      split at hAcknowledges
      case h_1 => cases hRetains
      case h_2 => cases hAcknowledges

theorem abandoned_cons_iff
    (hRetains : e.Retains) :
    Abandoned (e :: h) ↔ Abandoned h := by
  constructor
  · intro hAbandoned
    cases hAbandoned with
    | here => cases hRetains
    | since hBefore => exact hBefore
  · intro hBefore
    exact .since hBefore hRetains.not_acknowledges

theorem Grows.abandoned_iff
    (hGrows : Grows Event.Retains h h') :
    Abandoned h' ↔ Abandoned h :=
  hGrows.induction
    (motive := fun g => Abandoned g ↔ Abandoned h) Iff.rfl
    fun _ _ hRetains hBefore =>
      (abandoned_cons_iff hRetains).trans hBefore

/- An acknowledgement ends it. -/
theorem not_abandoned_of_acknowledged
    (hEvent : e.acknowledges = true) :
    ¬ Abandoned (e :: h) := by
  intro hAbandoned
  cases hAbandoned with
  | here => cases hEvent
  | since _ hNot => cases hEvent.symm.trans hNot

------------------------------------------------------------
-- Reports
------------------------------------------------------------

namespace Moment

/- What is reported of the storage and of the buffer. -/
def reports (m : Moment) :
    Option ComponentStatus × Option ComponentStatus :=
  (m.engine.health.status? Component.storage.name,
    m.engine.health.status? Component.buffer.name)

/- Both are degraded, for a failed batch is awaited again. -/
def Troubled (m : Moment) : Prop :=
  m.reports = (some Engine.retrying, some Engine.awaiting)

/- The storage is healthy, and the buffer is not degraded. -/
def Mended (m : Moment) : Prop :=
  m.reports.1 = some .healthy ∧
    ∀ why, m.reports.2 ≠ some (.degraded why)

/- A status of the stream is no report of either. -/
@[simp] theorem reports_mark_kafka
    (e : Engine)
    (s : ComponentStatus)
    (h : History) :
    reports ⟨e.mark .kafka s, h⟩ = reports ⟨e, h⟩ := by
  simp [reports, Engine.mark, Statuses.mark, Component.name]

/- Whatever was reported before, a failed batch is trouble. -/
theorem troubled_failing
    (e : Engine)
    (p : PartitionKey)
    (elapsed : Span)
    (offsets : OffsetTracker)
    (h : History) :
    Troubled ⟨(e.failing p elapsed).sentBack offsets, h⟩ := by
  simp [Troubled, reports, Engine.sentBack, Engine.failing,
    Engine.awaitingRedelivery, Engine.mark, Statuses.mark,
    Component.name, Engine.retrying, Engine.awaiting]

/- An engine that has just been started has nothing to mend. -/
theorem mended_started
    (settings : Settings) :
    Mended ⟨(Engine.fresh settings).started, []⟩ := by
  have hReports :
      reports ⟨(Engine.fresh settings).started, []⟩ =
        (some .healthy, some .unknown) :=
    rfl
  simp [Mended, hReports]

end Moment

------------------------------------------------------------
-- Turns
------------------------------------------------------------

/-
  How a move that goes on and takes no partition away bears on
  budgets and reports: not at all, with a failed batch, with
  an acknowledgement that leaves no partition failing, or with
  one that leaves some.
-/
inductive Turns (m m' : Moment) : Prop
| aside
    (hFailures : m'.engine.failures = m.engine.failures)
    (hReports : m'.reports = m.reports)
    (hRetains : Grows Event.Retains m.history m'.history)
| failed
    (hSome : m'.engine.failures.isEmpty = false)
    (hTroubled : m'.Troubled)
| mended
    {e : Event}
    {h : History}
    (hNewest : m'.history = e :: h)
    (hEvent : e.acknowledges = true)
    (hNone : m'.engine.failures.isEmpty = true)
    (hMended : m'.Mended)
| relieved
    {e : Event}
    {h : History}
    (hNewest : m'.history = e :: h)
    (hEvent : e.acknowledges = true)
    (hSome : m'.engine.failures.isEmpty = false)
    (hBefore : m.engine.failures.isEmpty = false)
    (hReports : m'.reports = m.reports)

/- What happens aside before a move does not change its turn. -/
theorem Turns.after
    (hTurns : Turns m₁ m')
    (hFailures : m₁.engine.failures = m.engine.failures)
    (hReports : m₁.reports = m.reports)
    (hRetains : Grows Event.Retains m.history m₁.history) :
    Turns m m' := by
  cases hTurns with
  | aside hThen hShown hGrows =>
      exact .aside (hThen.trans hFailures) (hShown.trans hReports)
        (hRetains.trans hGrows)
  | failed hSome hTroubled => exact .failed hSome hTroubled
  | mended hNewest hEvent hNone hMended =>
      exact .mended hNewest hEvent hNone hMended
  | relieved hNewest hEvent hSome hBefore hShown =>
      exact .relieved hNewest hEvent hSome (hFailures ▸ hBefore)
        (hShown.trans hReports)

/- A table that has an entry left had one before. -/
theorem Table.isEmpty_eq_false_of_imp
    {κ α β : Type}
    [DecidableEq κ]
    {t : Table κ α}
    {u : Table κ β}
    (hSome : t.isEmpty = false)
    (hNone : ∀ k, u.get? k = none → t.get? k = none) :
    u.isEmpty = false := by
  rw [← Bool.not_eq_true] at hSome ⊢
  intro hEmpty
  apply hSome
  rw [Table.isEmpty_iff] at hEmpty ⊢
  exact fun k => hNone k (hEmpty k)

/- A batch that is acknowledged mends the reports, or leaves them. -/
theorem Engine.turns_acknowledged
    (m : Moment)
    (p : PartitionKey)
    (b : CommittedBatch) :
    Turns m
      ⟨(m.engine.acknowledged b).recovered p,
        .commit b.last (.done (.ok ())) :: m.history⟩ := by
  cases hLeft : (m.engine.failures.erase p).isEmpty with
  | true =>
      have hAfter :
          (m.engine.acknowledged b).recovered p =
            (({ m.engine.acknowledged b with
                failures := m.engine.failures.erase p } :
              Engine).mark .storage .healthy).mark .buffer
                .healthy := by
        unfold recovered
        exact if_pos hLeft
      rw [hAfter]
      refine .mended rfl rfl hLeft ⟨?_, ?_⟩
      · simp [Moment.reports, mark, Statuses.mark,
          Component.name]
      · simp [Moment.reports, mark, Statuses.mark,
          Component.name]
  | false =>
      have hAfter :
          (m.engine.acknowledged b).recovered p =
            { m.engine.acknowledged b with
              failures := m.engine.failures.erase p } := by
        unfold recovered
        exact if_neg (by simpa [acknowledged] using hLeft)
      rw [hAfter]
      refine .relieved rfl rfl hLeft ?_ rfl
      exact Table.isEmpty_eq_false_of_imp hLeft
        fun q hNone => by simp [hNone]

/- Settling an outcome takes one of the turns, if it goes on. -/
theorem Settled.turns
    {elapsed : Span}
    (hSettled : Settled p elapsed m answer r m')
    (hGoesOn : r = .ok ()) :
    Turns m m' := by
  cases hSettled with
  | nothing => exact .aside rfl rfl (.refl _ _)
  | acknowledged b => exact Engine.turns_acknowledged m p b
  | waited n backoff offset offsets a =>
      refine .failed ?_ (Moment.troubled_failing _ _ _ _ _)
      rw [← Bool.not_eq_true, Table.isEmpty_iff]
      intro hNone
      have hFailed := hNone p
      simp [Engine.sentBack, Engine.failing,
        Engine.awaitingRedelivery, Engine.mark,
        Engine.noteFailure] at hFailed
  | unacknowledged => cases hGoesOn
  | lost => cases hGoesOn
  | halted => cases hGoesOn
  | unsent => cases hGoesOn
  | untracked => cases hGoesOn

theorem Worked.turns
    (hWorked : Worked p w m r m')
    (hGoesOn : r = .ok ()) :
    Turns m m' := by
  cases hWorked with
  | settled elapsed hTicked hAnswer hSettled =>
      exact (hSettled.turns hGoesOn).after rfl rfl
        (hTicked.grows (fun _ => trivial) fun _ _ _ => trivial)
  | cut => cases hGoesOn

/- A move that goes on takes a turn, or follows an assignment. -/
theorem Move.turns_or_released
    (hMove : Move m r m')
    (hGoesOn : r = .ok ()) :
    Turns m m' ∨
      ∃ ps,
        m' =
          ⟨m.engine.keepOnly ps,
            .assigned (.ok ps) :: m.history⟩ := by
  have hHere := Grows.refl Event.Retains m.history
  cases hMove with
  | quiet => exact .inl (.aside rfl rfl (hHere.cons trivial))
  | troubled cause backoff a =>
      refine .inl (.aside rfl ?_ (.cons (hHere.cons trivial) trivial))
      exact Moment.reports_mark_kafka _ _ _
  | @delivered f w m₁ m' r hReadied hRouted hWorked =>
      refine .inl ((hWorked.turns hGoesOn).after ?_ ?_ ?_)
      · cases hReadied <;> rfl
      · cases hReadied with
        | kept => exact Moment.reports_mark_kafka _ _ m.history
        | opened => exact Moment.reports_mark_kafka _ _ m.history
      · cases hReadied with
        | kept => exact hHere.cons trivial
        | opened => exact .cons (hHere.cons trivial) trivial
  | released ps => exact .inr ⟨ps, rfl⟩
  | unassigned =>
      exact .inl (.aside rfl rfl (hHere.cons trivial))
  | ticked hWorker hWorked => exact .inl (hWorked.turns hGoesOn)
  | gauged => exact .inl (.aside rfl rfl hHere)
  | unpolled => cases hGoesOn
  | broken => cases hGoesOn
  | misrouted => cases hGoesOn
  | overflowed => cases hGoesOn

------------------------------------------------------------
-- Recovering Engines
------------------------------------------------------------

/- The budgets of an engine are those of the failing partitions. -/
def Moment.KeepsBudgets (m : Moment) : Prop :=
  ∀ q,
    m.engine.failures.get? q ≠ none ↔
      0 < failuresInRow q m.history

/- So it keeps none exactly if no partition is failing. -/
theorem Moment.KeepsBudgets.failing_iff
    (hBudgets : m.KeepsBudgets) :
    Failing m.history ↔ m.engine.failures.isEmpty = false := by
  rw [← Bool.not_eq_true, Table.isEmpty_iff]
  constructor
  · rintro ⟨q, hFailed⟩ hNone
    exact (hBudgets q).mpr hFailed (hNone q)
  · intro hSome
    rcases not_forall.mp hSome with ⟨q, hBudget⟩
    exact ⟨q, (hBudgets q).mp hBudget⟩

theorem Reaches.keepsBudgets
    (hReaches : Reaches start (.after r) m)
    (hKeyed : start.engine.Keyed)
    (hBacked : ∀ p, Backed p start)
    (hSpared : ∀ p, Spared policy p start)
    (hPolicy : 1 ≤ policy.maxRetries.toNat) :
    m.KeepsBudgets := by
  intro q
  have hTallied := hReaches.tallied hKeyed (hSpared q) hPolicy
  constructor
  · intro hBudget
    rcases Option.ne_none_iff_exists'.mp hBudget with ⟨b, hFound⟩
    have hFailed :=
      ((hReaches.backed hKeyed (hBacked q)).failing b hFound).2
    have hCounted := hTallied.toNat_failures hPolicy
    rw [Engine.budgetOf, hFound] at hCounted
    exact Nat.lt_of_lt_of_eq hFailed hCounted
  · exact hTallied.get?_ne_none hPolicy

/-
  What an engine reports while it goes on: trouble while a
  partition is failing, and where the failing ones were
  abandoned.  Else the storage has recovered.
-/
structure Recovers (m : Moment) : Prop where
  budgets : m.KeepsBudgets
  failing :
    m.engine.failures.isEmpty = false → m.Troubled
  abandoned : Abandoned m.history → m.Troubled
  mended :
    m.engine.failures.isEmpty = true →
      ¬ Abandoned m.history →
      m.Mended

theorem Moment.Troubled.of_eq
    (hTroubled : m.Troubled)
    (hReports : m'.reports = m.reports) :
    m'.Troubled :=
  hReports.trans hTroubled

theorem Moment.Mended.of_eq
    (hMended : m.Mended)
    (hReports : m'.reports = m.reports) :
    m'.Mended := by
  unfold Mended
  rw [hReports]
  exact hMended

/- An engine recovers through every turn it takes. -/
theorem Turns.recovers
    (hTurns : Turns m m')
    (hRecovers : Recovers m)
    (hBudgets : m'.KeepsBudgets) :
    Recovers m' := by
  cases hTurns with
  | aside hFailures hReports hRetains =>
      have hSame := hRetains.abandoned_iff
      refine ⟨hBudgets, ?_, ?_, ?_⟩
      · intro hSome
        rw [hFailures] at hSome
        exact (hRecovers.failing hSome).of_eq hReports
      · intro hAbandoned
        exact (hRecovers.abandoned (hSame.mp hAbandoned)).of_eq
          hReports
      · intro hNone hKept
        rw [hFailures] at hNone
        exact (hRecovers.mended hNone
          fun hBefore => hKept (hSame.mpr hBefore)).of_eq hReports
  | failed hSome hTroubled =>
      refine ⟨hBudgets, fun _ => hTroubled, fun _ => hTroubled, ?_⟩
      intro hNone
      cases hSome.symm.trans hNone
  | mended hNewest hEvent hNone hMended =>
      refine ⟨hBudgets, ?_, ?_, fun _ _ => hMended⟩
      · intro hSome
        cases hSome.symm.trans hNone
      · intro hAbandoned
        rw [hNewest] at hAbandoned
        exact absurd hAbandoned
          (not_abandoned_of_acknowledged hEvent)
  | relieved hNewest hEvent hSome hBefore hReports =>
      have hTroubled :=
        (hRecovers.failing hBefore).of_eq hReports
      refine ⟨hBudgets, fun _ => hTroubled, fun _ => hTroubled, ?_⟩
      intro hNone
      cases hSome.symm.trans hNone

/-
  It recovers through an assignment as well, which may take
  the last failing partition away.
-/
theorem Recovers.released
    (hRecovers : Recovers m)
    (ps : List PartitionKey)
    (hBudgets :
      Moment.KeepsBudgets
        ⟨m.engine.keepOnly ps,
          .assigned (.ok ps) :: m.history⟩) :
    Recovers
      ⟨m.engine.keepOnly ps, .assigned (.ok ps) :: m.history⟩ := by
  have hReports :
      Moment.reports
          ⟨m.engine.keepOnly ps,
            .assigned (.ok ps) :: m.history⟩ =
        m.reports :=
    rfl
  have hFewer
      (hSome : (m.engine.keepOnly ps).failures.isEmpty = false) :
      m.engine.failures.isEmpty = false :=
    Table.isEmpty_eq_false_of_imp hSome
      fun q hNone => by simp [Engine.keepOnly, hNone]
  refine ⟨hBudgets, ?_, ?_, ?_⟩
  · intro hSome
    exact (hRecovers.failing (hFewer hSome)).of_eq hReports
  · intro hAbandoned
    cases hAbandoned with
    | here _ hFailing =>
        have hBefore := hRecovers.budgets.failing_iff.mp hFailing
        exact (hRecovers.failing hBefore).of_eq hReports
    | since hBefore =>
        exact (hRecovers.abandoned hBefore).of_eq hReports
  · intro hNone hKept
    cases hBefore : m.engine.failures.isEmpty with
    | true =>
        exact (hRecovers.mended hBefore
          fun hAbandoned => hKept (.since hAbandoned rfl)).of_eq
            hReports
    | false =>
        -- The assignment took the last failing partition away.
        have hFailing := hRecovers.budgets.failing_iff.mpr hBefore
        have hGone : ¬ Failing (.assigned (.ok ps) :: m.history) := by
          intro hStill
          cases hNone.symm.trans (hBudgets.failing_iff.mp hStill)
        exact absurd (.here ps hFailing hGone) hKept

theorem Reaches.recovers
    (hReaches : Reaches start (.after r) m)
    (hKeyed : start.engine.Keyed)
    (hBacked : ∀ p, Backed p start)
    (hSpared : ∀ p, Spared policy p start)
    (hPolicy : 1 ≤ policy.maxRetries.toNat)
    (hStart : Recovers start) :
    r = .ok () → Recovers m :=
  hReaches.loop_induction
    (motive := fun r m => r = .ok () → Recovers m)
    (fun _ => hStart)
    fun m r m' hBefore hRecovers hMove hGoesOn => by
      have hBudgets :=
        (hBefore.move hMove).keepsBudgets hKeyed hBacked hSpared hPolicy
      rcases hMove.turns_or_released hGoesOn with
        hTurns | ⟨ps, rfl⟩
      · exact hTurns.recovers (hRecovers rfl) hBudgets
      · exact (hRecovers rfl).released ps hBudgets

/-
  At every poll of a run, the storage is degraded while the
  engine keeps a budget for a failing partition.  When it
  keeps none, the storage is healthy, unless the last failing
  partition was taken away and nothing acknowledged since.
-/
theorem recovers_of_run
    (world : World σ)
    {settings : Settings}
    {e : Engine}
    (hEngine : Engine.ofSettings settings = .ok e)
    (steps : Nat)
    (s : σ) :
    ∀ t ∈ (Engine.run world.recorded steps e (s, [])).atPolls,
      Recovers t.moment := by
  rcases Engine.eq_fresh_of_ofSettings hEngine with
    ⟨rfl, hPolicy⟩
  have hKeyed : (Engine.fresh settings).started.Keyed := nofun
  have hBacked (p : PartitionKey) :
      Backed p ⟨(Engine.fresh settings).started, []⟩ :=
    .of_none rfl rfl rfl rfl (List.forall_mem_nil _)
  have hSpared (p : PartitionKey) :
      Spared (Engine.fresh settings).policy p
        ⟨(Engine.fresh settings).started, []⟩ :=
    ⟨⟨rfl, rfl⟩, .fresh⟩
  have hStart :
      Recovers ⟨(Engine.fresh settings).started, []⟩ := by
    refine ⟨?_, ?_, ?_, ?_⟩
    · intro q
      exact ⟨fun hBudget => absurd rfl hBudget,
        fun hFailed => absurd hFailed (Nat.lt_irrefl 0)⟩
    · intro hSome
      cases hSome
    · intro hAbandoned
      cases hAbandoned
    · exact fun _ _ => Moment.mended_started settings
  intro t hPoll
  have hLoop :
      Reaches ⟨(Engine.fresh settings).started, []⟩
        (.after (.ok ())) t.moment :=
    (run_reaches world steps (.fresh settings) s []).1 t hPoll
  exact hLoop.recovers hKeyed hBacked hSpared hPolicy hStart rfl

/-
  A partition fails and is taken away at once; the fragment is
  delivered again, and stored.
-/
def Script.revoked : Script where
  polls := [3, 3].map fun offset => .fragment (fragment offset)
  uploads := [.refused, .stored]
  assigned := []

@[irreducible] def revokedRun : Engine.Run (Script × History) :=
  Engine.run Script.world.recorded 9 (.fresh eagerSettings)
    (Script.revoked, [])

theorem recovers_of_revokedRun :
    Engine.ofSettings eagerSettings =
        .ok (.fresh eagerSettings) ∧
      revokedRun.atPolls.map (fun t => t.moment.reports) =
        [(some .healthy, some .unknown),
          (some Engine.retrying, some Engine.awaiting),
          (some .healthy, some .healthy)] ∧
      ∀ t ∈ revokedRun.atPolls, Recovers t.moment := by
  have hEngine :
      Engine.ofSettings eagerSettings =
        .ok (.fresh eagerSettings) :=
    rfl
  refine ⟨hEngine, by decide +kernel, ?_⟩
  rw [revokedRun]
  exact recovers_of_run Script.world hEngine 9 Script.revoked

/-
  After the partition was taken away nothing is failing any
  more, and yet the storage is reported as retrying.
-/
theorem not_mended_of_revokedRun :
    Engine.ofSettings eagerSettings =
        .ok (.fresh eagerSettings) ∧
      ∃ t ∈ revokedRun.atPolls,
        t.engine.failures.isEmpty = true ∧
          t.moment.reports =
            (some Engine.retrying, some Engine.awaiting) ∧
          ¬ t.moment.Mended := by
  have hStill :
      ∃ t ∈ revokedRun.atPolls,
        t.engine.failures.isEmpty = true ∧
          t.moment.reports =
            (some Engine.retrying, some Engine.awaiting) := by
    decide +kernel
  rcases hStill with ⟨t, hPoll, hNone, hReports⟩
  refine ⟨rfl, t, hPoll, hNone, hReports, ?_⟩
  rintro ⟨hStorage, -⟩
  rw [hReports] at hStorage
  cases hStorage

end FragmentSink
