import FragmentSink.Proofs.Engine.Apart

/-
  The lane of one partition: all that an engine keeps for it.

  What an engine does to one partition changes its lane alone,
  and only depends on what is in that lane.  So an engine that
  has a partition to itself keeps the same lane as an engine
  that has many, as long as both do the same to it.

  Main declarations:
    * `Engine.lane`
    * `Engine.Changes`
    * `Mirrors`
    * `Mirrors.change`
-/

namespace FragmentSink

variable {p q : PartitionKey}

------------------------------------------------------------
-- Lanes
------------------------------------------------------------

/- What is kept for one partition, with the setup it is kept under. -/
structure Lane where
  setup : Engine.Setup
  worker : Option Worker
  budget : Option FailureBudget
  current : Option Int64
  committed : Option Int64

/- The lane of a partition in an engine. -/
def Engine.lane (e : Engine) (p : PartitionKey) : Lane where
  setup := e.setup
  worker := e.workers.get? p
  budget := e.failures.get? p
  current := e.offsets.current? p
  committed := e.offsets.committed? p

namespace Lane

/- The lane after one more failed commit. -/
def failing (l : Lane) : Lane :=
  { l with
    budget :=
      some
        (l.budget.getD (.fresh l.setup.policy)).countFailure }

/- The lane after a batch was acknowledged up to an offset. -/
def acknowledged (l : Lane) (offset : Int64) : Lane :=
  { l with budget := none, committed := some offset }

/-
  The lane after an assignment.  A partition that is left out
  is forgotten, but for the offsets of one without a worker.
-/
def kept (l : Lane) (owned : Bool) : Lane :=
  if owned then
    l
  else
    { l with
      worker := none
      budget := none
      current := if l.worker.isSome then none else l.current
      committed :=
        if l.worker.isSome then none else l.committed }

end Lane

/- Nothing happens to the lane of a partition while others are served. -/
theorem Apart.lane_eq
    {m m' : Moment}
    (hApart : Apart p m m')
    (hSetup : m'.engine.setup = m.engine.setup) :
    m'.engine.lane p = m.engine.lane p := by
  simp [Engine.lane, hSetup, hApart.worker, hApart.failures,
    hApart.current, hApart.committed]

namespace Engine

/- An assignment keeps each lane or not, by whether it lists the partition. -/
theorem lane_keepOnly
    (e : Engine)
    (ps : List PartitionKey)
    (p : PartitionKey) :
    (e.keepOnly ps).lane p = (e.lane p).kept (ps.contains p) := by
  by_cases hKept : p ∈ ps
  · simp [lane, Lane.kept, keepOnly, setup, hKept,
      OffsetTracker.current?_foldl_remove,
      OffsetTracker.committed?_foldl_remove]
  · cases hWorker : e.workers.get? p <;>
      simp [lane, Lane.kept, keepOnly, setup, hKept, hWorker,
        OffsetTracker.current?_foldl_remove,
        OffsetTracker.committed?_foldl_remove,
        Table.mem_keys_iff]

------------------------------------------------------------
-- Changes of One Lane
------------------------------------------------------------

/- A change that is made to one lane only, by what is in it. -/
structure Changes
    (p : PartitionKey)
    (f : Engine → Engine)
    (change : Lane → Lane) : Prop where
  own : ∀ e, (f e).lane p = change (e.lane p)
  other : ∀ e q, p ≠ q → (f e).lane q = e.lane q

theorem changes_putWorker
    (p : PartitionKey)
    (w : Worker) :
    Changes p (·.putWorker p w)
      fun l => { l with worker := some w } := by
  constructor
  · intro e
    simp [lane, putWorker, setup]
  · intro e q hOther
    simp [lane, putWorker, setup, hOther]

theorem changes_taking
    {f : Fragment}
    (hKey : f.partitionKey = p) :
    Changes p (·.taking f)
      fun l => { l with current := some f.token.offset } := by
  have hToken : f.token.key = p := hKey
  constructor
  · intro e
    simp [lane, taking, mark, setup, hToken,
      OffsetTracker.updateCurrent, OffsetTracker.current?,
      OffsetTracker.committed?]
  · intro e q hOther
    simp [lane, taking, mark, setup, hToken, hOther,
      OffsetTracker.updateCurrent, OffsetTracker.current?,
      OffsetTracker.committed?]

theorem changes_acknowledged
    {b : CommittedBatch}
    (hKey : b.last.key = p) :
    Changes p (fun e => (e.acknowledged b).recovered p)
      (·.acknowledged b.last.offset) := by
  have hRecovered (e : Engine) (q : PartitionKey) :
      (e.recovered p).lane q =
        { e with failures := e.failures.erase p }.lane q := by
    unfold recovered
    simp only
    split <;> rfl
  constructor
  · intro e
    rw [hRecovered]
    simp [lane, acknowledged, Lane.acknowledged, setup, hKey,
      OffsetTracker.markCommitted, OffsetTracker.current?,
      OffsetTracker.committed?]
  · intro e q hOther
    rw [hRecovered]
    simp [lane, acknowledged, setup, hKey, hOther, hOther.symm,
      OffsetTracker.markCommitted, OffsetTracker.current?,
      OffsetTracker.committed?]

theorem changes_noteFailure
    (p : PartitionKey)
    (elapsed : Span) :
    Changes p (·.noteFailure p elapsed) Lane.failing := by
  constructor
  · intro e
    simp [lane, noteFailure, Lane.failing, setup, budgetOf]
  · intro e q hOther
    simp [lane, noteFailure, setup, hOther]

theorem changes_failing
    (p : PartitionKey)
    (elapsed : Span) :
    Changes p (·.failing p elapsed) Lane.failing :=
  ⟨(changes_noteFailure p elapsed).own,
    (changes_noteFailure p elapsed).other⟩

/- The engine whose partition was last consumed up to an offset again. -/
def resuming
    (e : Engine)
    (p : PartitionKey)
    (last : Int64) : Engine :=
  e.sentBack
    { e.offsets with current := e.offsets.current.insert p last }

theorem changes_resuming
    (p : PartitionKey)
    (last : Int64) :
    Changes p (·.resuming p last)
      fun l => { l with current := some last } := by
  constructor
  · intro e
    simp [lane, resuming, sentBack, setup,
      OffsetTracker.current?, OffsetTracker.committed?]
  · intro e q hOther
    simp [lane, resuming, sentBack, setup, hOther,
      OffsetTracker.current?, OffsetTracker.committed?]

end Engine

------------------------------------------------------------
-- Engines of One Partition
------------------------------------------------------------

/-
  A second engine has the same lane of a partition, and has
  neither read nor buffered anything of another.
-/
structure Mirrors
    (p : PartitionKey)
    (e alone : Engine) : Prop where
  lane : alone.lane p = e.lane p
  worker :
    ∀ q, p ≠ q → (alone.lane q).worker = none
  current :
    ∀ q, p ≠ q → (alone.lane q).current = none

namespace Mirrors

variable {e alone : Engine}

/- An engine without workers mirrors itself. -/
theorem fresh
    (p : PartitionKey)
    (s : Settings) :
    Mirrors p (Engine.fresh s).started (Engine.fresh s).started :=
  ⟨rfl, fun _ _ => rfl, fun _ _ => rfl⟩

/- The same change on both sides keeps the lanes the same. -/
theorem change
    {f g : Engine → Engine}
    {change : Lane → Lane}
    (hMirrors : Mirrors p e alone)
    (hHere : Engine.Changes p f change)
    (hAlone : Engine.Changes p g change) :
    Mirrors p (f e) (g alone) := by
  refine ⟨?_, ?_, ?_⟩
  · rw [hHere.own, hAlone.own, hMirrors.lane]
  · intro q hOther
    rw [hAlone.other alone q hOther]
    exact hMirrors.worker q hOther
  · intro q hOther
    rw [hAlone.other alone q hOther]
    exact hMirrors.current q hOther

/- So does whatever leaves the lanes as they were. -/
theorem of_lanes_eq
    {e' alone' : Engine}
    (hMirrors : Mirrors p e alone)
    (hHere : e'.lane p = e.lane p)
    (hAlone : ∀ q, alone'.lane q = alone.lane q) :
    Mirrors p e' alone' := by
  refine ⟨?_, ?_, ?_⟩
  · rw [hHere, hAlone, hMirrors.lane]
  · intro q hOther
    rw [hAlone]
    exact hMirrors.worker q hOther
  · intro q hOther
    rw [hAlone]
    exact hMirrors.current q hOther

/- An assignment only has to say whether it lists the partition. -/
theorem keepOnly
    {ps qs : List PartitionKey}
    (hMirrors : Mirrors p e alone)
    (hSame : ps.contains p = qs.contains p) :
    Mirrors p (e.keepOnly ps) (alone.keepOnly qs) := by
  refine ⟨?_, ?_, ?_⟩
  · rw [Engine.lane_keepOnly, Engine.lane_keepOnly, hSame,
      hMirrors.lane]
  · intro q hOther
    rw [Engine.lane_keepOnly, Lane.kept]
    split
    · exact hMirrors.worker q hOther
    · rfl
  · intro q hOther
    rw [Engine.lane_keepOnly, Lane.kept]
    split
    · exact hMirrors.current q hOther
    · simp [hMirrors.worker q hOther, hMirrors.current q hOther]

section Equalities

variable (hMirrors : Mirrors p e alone)

include hMirrors

theorem worker_eq :
    alone.workers.get? p = e.workers.get? p :=
  congrArg Lane.worker hMirrors.lane

theorem budgetOf_eq : alone.budgetOf p = e.budgetOf p := by
  have hBudget : alone.failures.get? p = e.failures.get? p :=
    congrArg Lane.budget hMirrors.lane
  have hPolicy : alone.policy = e.policy :=
    congrArg (·.setup.policy) hMirrors.lane
  rw [Engine.budgetOf, hBudget, hPolicy]
  rfl

theorem redeliveryOf_eq :
    alone.redeliveryOf p = e.redeliveryOf p := by
  rw [Engine.redeliveryOf, hMirrors.worker_eq]
  rfl

theorem openWorker_eq (now : Timestamp) :
    alone.openWorker p now = e.openWorker p now := by
  have hThresholds : alone.thresholds = e.thresholds :=
    congrArg (·.setup.thresholds) hMirrors.lane
  have hSettings : alone.settings = e.settings :=
    congrArg (·.setup.settings) hMirrors.lane
  rw [Engine.openWorker, hThresholds, hSettings]
  rfl

/- An engine with one partition has its worker alone, if any. -/
theorem workers_eq :
    alone.workers.entries =
      ((e.workers.get? p).map (p, ·)).toList := by
  rw [← hMirrors.worker_eq]
  rcases Table.entries_of_only hMirrors.worker with
    hNone | ⟨w, hOne⟩
  · simp [Table.get?, Entries.get?, hNone]
  · simp [Table.get?, Entries.get?, hOne]

/- And its offset alone. -/
theorem current_eq :
    alone.offsets.current.entries =
      ((e.offsets.current? p).map (p, ·)).toList := by
  have hCurrent :
      alone.offsets.current? p = e.offsets.current? p :=
    congrArg Lane.current hMirrors.lane
  rw [← hCurrent]
  rcases Table.entries_of_only hMirrors.current with
    hNone | ⟨offset, hOne⟩
  · simp [OffsetTracker.current?, Table.get?, Entries.get?, hNone]
  · simp [OffsetTracker.current?, Table.get?, Entries.get?, hOne]

/- The lag of its partition is the same. -/
theorem lag_eq :
    alone.offsets.lag p = e.offsets.lag p := by
  have hCurrent :
      alone.offsets.current? p = e.offsets.current? p :=
    congrArg Lane.current hMirrors.lane
  have hCommitted :
      alone.offsets.committed? p = e.offsets.committed? p :=
    congrArg Lane.committed hMirrors.lane
  rw [OffsetTracker.lag, hCurrent, hCommitted]
  rfl

end Equalities

end Mirrors

------------------------------------------------------------
-- Gauges
------------------------------------------------------------

/- A sum of lags has each of them. -/
theorem OffsetTracker.lag_of_sumLags
    {o : OffsetTracker}
    {ps : List PartitionKey}
    {before total : Int64}
    (hSum : o.sumLags before ps = .ok total)
    (hMember : p ∈ ps) :
    ∃ lag, o.lag p = .ok lag := by
  induction ps generalizing before with
  | nil => cases hMember
  | cons q ps ih =>
      simp only [sumLags] at hSum
      rcases List.mem_cons.mp hMember with rfl | hRest
      · cases hLag : o.lag p with
        | ok lag => exact ⟨lag, rfl⟩
        | error fault => simp [hLag] at hSum
      · split at hSum
        case h_1 => cases hSum
        case h_2 => exact ih hSum hRest
        case h_3 =>
          split at hSum
          case h_1 => cases hSum
          case h_2 => exact ih hSum hRest

/-
  The gauges of an engine with one partition can be set where
  those of an engine with many can.
-/
theorem Mirrors.sums_ok
    {e alone : Engine}
    (hMirrors : Mirrors p e alone) :
    ∃ sums,
      Engine.sumBuffered 0 0 alone.workers.values = .ok sums := by
  have hZero (n : UInt64) : Word.addNat 0 n = .ok n :=
    Word.addNat_eq_ok_iff.mpr (by simp)
  rw [Table.values, hMirrors.workers_eq]
  cases e.workers.get? p with
  | none => exact ⟨(0, 0), rfl⟩
  | some w =>
      refine ⟨(w.state.count, w.state.bytes), ?_⟩
      simp [Engine.sumBuffered, hZero]

theorem Mirrors.totalLag_ok
    {e alone : Engine}
    (hMirrors : Mirrors p e alone)
    (hGauges : ∀ fault, ¬ e.GaugesFail fault) :
    ∃ lag, alone.offsets.totalLag = .ok lag := by
  have hZero (n : Int64) : Word.addInt 0 n = .ok n :=
    Word.addInt_eq_ok_iff.mpr (by simp)
  rw [OffsetTracker.totalLag, OffsetTracker.partitions,
    Table.keys, hMirrors.current_eq]
  cases hCurrent : e.offsets.current? p with
  | none => exact ⟨0, by simp [OffsetTracker.sumLags]⟩
  | some offset =>
      cases hTotal : e.offsets.totalLag with
      | error fault => exact absurd (.inr hTotal) (hGauges fault)
      | ok total =>
          have hMember : p ∈ e.offsets.partitions := by
            rw [OffsetTracker.partitions, List.mem_mergeSort,
              Table.mem_keys_iff]
            intro hNone
            cases hCurrent.symm.trans hNone
          rcases OffsetTracker.lag_of_sumLags hTotal hMember with
            ⟨lag, hLag⟩
          rw [← hMirrors.lag_eq] at hLag
          cases lag with
          | none => exact ⟨0, by simp [OffsetTracker.sumLags, hLag]⟩
          | some lag =>
              exact ⟨lag, by
                simp [OffsetTracker.sumLags, hLag, hZero]⟩

end FragmentSink
