import FragmentSink.Proofs.Engine.Lag
import Mathlib

/-
  Where the arithmetic of an engine overflows.

  As long as fragments have offsets that another one follows,
  no offset is sent back below the one before zero, and no lag
  leaves its word.  The sums over all partitions are another
  matter: each fails exactly where the exact total is too big,
  and a run ends with a fault for no other reason.

  Main declarations:
    * `IsOffset`
    * `Engine.InRange`
    * `Engine.TotalsFit`
    * `Engine.gaugesFail_iff`
    * `overflows_of_run`
-/

namespace FragmentSink

variable {σ : Type}
variable {p q : PartitionKey}
variable {f : Fragment}
variable {w w' : Worker}
variable {h h' : History}
variable {o o' : OffsetTracker}
variable {e e' : Engine}
variable {m m₁ m' start : Moment}
variable {r : Except Stop Unit}
variable {answer : FlushEnd}

------------------------------------------------------------
-- Offsets in Range
------------------------------------------------------------

/- The last offset that another one follows. -/
def lastOffset : Int :=
  9223372036854775806

/- An offset that is not negative, and that another one follows. -/
def IsOffset (n : Int64) : Prop :=
  0 ≤ n.toInt ∧ n.toInt ≤ lastOffset

instance (n : Int64) : Decidable (IsOffset n) :=
  inferInstanceAs (Decidable (_ ∧ _))

/- The offset of the fragment that an event delivers. -/
def Event.delivered? : Event → Option Int64
| .poll (.done (.fragment f)) => some f.offset
| _ => none

/- The offsets of what was delivered, the latest first. -/
def History.offsets (h : History) : List Int64 :=
  h.filterMap Event.delivered?

/- All of them are in range. -/
def History.InRange (h : History) : Prop :=
  ∀ n ∈ h.offsets, IsOffset n

theorem History.inRange_iff_all :
    h.InRange ↔
      h.offsets.all (fun n => decide (IsOffset n)) = true := by
  simp [InRange]

theorem History.InRange.of_suffix
    (hRange : h'.InRange)
    (hSuffix : h <:+ h') :
    h.InRange :=
  fun n hMem =>
    hRange n ((hSuffix.filterMap Event.delivered?).subset hMem)

theorem History.InRange.isOffset
    (hRange : h'.InRange)
    (hSuffix : .poll (.done (.fragment f)) :: h <:+ h') :
    IsOffset f.offset :=
  hRange.of_suffix hSuffix _
    (List.mem_filterMap.mpr ⟨_, List.mem_cons_self, rfl⟩)

/- What a worker holds and goes back to has such offsets. -/
structure Worker.InRange (w : Worker) : Prop where
  pending : ∀ f ∈ w.pending, IsOffset f.offset
  resumed : ∀ n ∈ w.redelivery, IsOffset n

/- So has what is committed; what is consumed may lie one below. -/
structure OffsetTracker.InRange (o : OffsetTracker) : Prop where
  current :
    ∀ p, ∀ n ∈ o.current? p, -1 ≤ n.toInt ∧ n.toInt ≤ lastOffset
  committed : ∀ p, ∀ n ∈ o.committed? p, IsOffset n

/- All offsets that an engine keeps are in range. -/
structure Engine.InRange (e : Engine) : Prop where
  workers : e.Each Worker.InRange
  offsets : e.offsets.InRange

------------------------------------------------------------
-- Trackers
------------------------------------------------------------

/- An offset in range has one before it. -/
theorem IsOffset.exists_before
    {n : Int64}
    (hOffset : IsOffset n) :
    ∃ last, Word.subInt n 1 = .ok last ∧
      last.toInt = n.toInt - 1 := by
  have hOne : (1 : Int64).toInt = 1 := rfl
  have hFits : Word.FitsInt (n.toInt - (1 : Int64).toInt) := by
    have hTop := n.toInt_lt
    have hLow := hOffset.1
    rw [hOne]
    constructor <;> omega
  have hSub : Word.subInt n 1 = .ok (n - 1) := if_pos hFits
  exact ⟨_, hSub, by rw [Word.subInt_eq_ok_iff.mp hSub, hOne]⟩

/- So a partition can be sent back to it. -/
theorem OffsetTracker.exists_rewind
    {n : Int64}
    (o : OffsetTracker)
    (p : PartitionKey)
    (hOffset : IsOffset n) :
    ∃ o', o.rewind p n = .ok o' := by
  rcases hOffset.exists_before with ⟨last, hSub, -⟩
  exact ⟨_, by rw [OffsetTracker.rewind, hSub]; rfl⟩

namespace OffsetTracker.InRange

variable {t : OffsetToken}

theorem updateCurrent
    (hRange : o.InRange)
    (hOffset : IsOffset t.offset) :
    (o.updateCurrent t).InRange := by
  refine ⟨?_, hRange.committed⟩
  intro p n hFound
  simp only [OffsetTracker.current?, OffsetTracker.updateCurrent,
    Table.get?_insert] at hFound
  split at hFound
  case isTrue =>
    cases hFound
    exact ⟨by have := hOffset.1; omega, hOffset.2⟩
  case isFalse => exact hRange.current p n hFound

theorem markCommitted
    (hRange : o.InRange)
    (hOffset : IsOffset t.offset) :
    (o.markCommitted t).InRange := by
  refine ⟨hRange.current, ?_⟩
  intro p n hFound
  simp only [OffsetTracker.committed?, OffsetTracker.markCommitted,
    Table.get?_insert] at hFound
  split at hFound
  case isTrue =>
    cases hFound
    exact hOffset
  case isFalse => exact hRange.committed p n hFound

theorem rewind
    {n : Int64}
    (hRange : o.InRange)
    (hOffset : IsOffset n)
    (hRewind : o.rewind p n = .ok o') :
    o'.InRange := by
  rcases hOffset.exists_before with ⟨last, hSub, hLast⟩
  rcases OffsetTracker.rewind_eq_ok hRewind with
    ⟨found, hFound, rfl⟩
  cases hSub.symm.trans hFound
  refine ⟨?_, hRange.committed⟩
  intro q k hCurrent
  simp only [OffsetTracker.current?, Table.get?_insert]
    at hCurrent
  split at hCurrent
  case isTrue =>
    cases hCurrent
    have hLow := hOffset.1
    have hHigh := hOffset.2
    omega
  case isFalse => exact hRange.current q k hCurrent

theorem forget
    (hRange : o.InRange)
    (ps : List PartitionKey) :
    (ps.foldl OffsetTracker.remove o).InRange := by
  constructor
  · intro p n hFound
    rw [OffsetTracker.current?_foldl_remove] at hFound
    split at hFound
    case isTrue => cases hFound
    case isFalse => exact hRange.current p n hFound
  · intro p n hFound
    rw [OffsetTracker.committed?_foldl_remove] at hFound
    split at hFound
    case isTrue => cases hFound
    case isFalse => exact hRange.committed p n hFound

end OffsetTracker.InRange

------------------------------------------------------------
-- Workers
------------------------------------------------------------

namespace Worker

theorem InRange.append
    (hRange : w.InRange)
    (hOffset : IsOffset f.offset) :
    (w.append f).InRange := by
  refine ⟨?_, hRange.resumed⟩
  intro g hMem
  rcases List.mem_append.mp hMem with hOld | hNew
  · exact hRange.pending g hOld
  · cases List.mem_singleton.mp hNew
    exact hOffset

theorem Flushed.inRange
    {reason : FlushReason}
    (hFlushed : w.Flushed reason h answer w' h')
    (hRange : w.InRange) :
    w'.InRange ∧
      ∀ b, answer = .committed b → IsOffset b.last.offset := by
  cases hFlushed with
  | empty => exact ⟨⟨hRange.pending, hRange.resumed⟩, nofun⟩
  | durable first rest duration now hPending =>
      refine ⟨⟨nofun, nofun⟩, ?_⟩
      rintro b ⟨⟩
      apply hRange.pending
      rw [hPending]
      exact List.getLast_mem _
  | failed first rest uploads now hPending =>
      refine ⟨⟨nofun, ?_⟩, nofun⟩
      rintro n ⟨⟩
      apply hRange.pending
      rw [hPending]
      exact List.mem_cons_self
  | dropped => exact ⟨⟨nofun, hRange.resumed⟩, nofun⟩

theorem Ticked.inRange
    (hTicked : w.Ticked h answer w' h')
    (hRange : w.InRange) :
    w'.InRange ∧
      ∀ b, answer = .committed b → IsOffset b.last.offset := by
  cases hTicked with
  | idle => exact ⟨hRange, nofun⟩
  | ready now reason hReason hFlushed =>
      exact hFlushed.inRange hRange

end Worker

------------------------------------------------------------
-- Engines
------------------------------------------------------------

theorem Engine.InRange.putWorker
    (hRange : e.InRange)
    (hWorker : w.InRange) :
    (e.putWorker p w).InRange :=
  ⟨hRange.workers.putWorker hWorker, hRange.offsets⟩

theorem Engine.InRange.redelivery
    {n : Int64}
    (hRange : e.InRange)
    (hOffset : e.redeliveryOf p = some n) :
    IsOffset n := by
  rcases Option.bind_eq_some_iff.mp hOffset with
    ⟨w, hFound, hResumed⟩
  exact (hRange.workers p w hFound).resumed n hResumed

/- However an outcome is settled, no offset leaves its range. -/
theorem Settled.inRange
    {elapsed : Span}
    (hSettled : Settled p elapsed m answer r m')
    (hRange : m.engine.InRange)
    (hLast :
      ∀ b, answer = .committed b → IsOffset b.last.offset) :
    m'.engine.InRange ∧ ∀ fault, r ≠ .error (.fault fault) := by
  have hWorkers :=
    hRange.workers.congr hSettled.workers_eq
  have hSame := hRange.offsets
  cases hSettled with
  | acknowledged b =>
      refine ⟨⟨hWorkers, ?_⟩, by simp⟩
      rw [Engine.offsets_recovered]
      exact hSame.markCommitted (hLast b rfl)
  | untracked n backoff offset fault hAction hOffset hFault =>
      rcases m.engine.offsets.exists_rewind p
        (hRange.redelivery hOffset) with ⟨o, hRewind⟩
      cases hRewind.symm.trans hFault
  | waited n backoff offset offsets a hAction hOffset hOffsets =>
      refine ⟨⟨hWorkers, ?_⟩, ?_⟩
      · exact hSame.rewind (hRange.redelivery hOffset) hOffsets
      · cases a <;> simp [Awaited.ending]
  | _ => exact ⟨⟨hWorkers, hSame⟩, by simp⟩

theorem Worked.inRange
    (hWorked : Worked p w m r m')
    (hRange : m.engine.InRange)
    (hWorker : w.InRange) :
    m'.engine.InRange ∧ ∀ fault, r ≠ .error (.fault fault) := by
  cases hWorked with
  | settled elapsed hTicked hAnswer hSettled =>
      rcases hTicked.inRange hWorker with ⟨hAfter, hLast⟩
      exact hSettled.inRange (hRange.putWorker hAfter) hLast
  | cut hTicked =>
      exact ⟨hRange.putWorker (hTicked.inRange hWorker).1, by simp⟩

theorem Readied.inRange
    (hReadied : Readied p m w m₁)
    (hRange : m.engine.InRange) :
    w.InRange ∧ m₁.engine.InRange := by
  cases hReadied with
  | kept w hWorker => exact ⟨hRange.workers p w hWorker, hRange⟩
  | opened now hNone =>
      have hOpen : (m.engine.openWorker p now).InRange :=
        ⟨nofun, nofun⟩
      exact ⟨hOpen, hRange.putWorker hOpen⟩

theorem Engine.InRange.taking
    (hRange : e.InRange)
    (hOffset : IsOffset f.offset) :
    (e.taking f).InRange :=
  ⟨hRange.workers, hRange.offsets.updateCurrent hOffset⟩

/- A fault of a move is one of its gauges, and no offset leaves its range. -/
theorem Move.inRange
    (hMove : Move m r m')
    (hKeyed : m.engine.Keyed)
    (hRange : m.engine.InRange)
    (hHistory : m'.history.InRange) :
    m'.engine.InRange ∧
      ∀ fault, r = .error (.fault fault) →
        m'.engine.GaugesFail fault := by
  cases hMove with
  | @delivered f w m₁ m' r hReadied hRouted hWorked =>
      have hOffset : IsOffset f.offset :=
        hHistory.isOffset
          (hReadied.calls.trans hWorked.calls).suffix
      rcases hReadied.inRange (hRange.taking hOffset) with
        ⟨hWorker, hReady⟩
      rcases hWorked.inRange hReady (hWorker.append hOffset) with
        ⟨hAfter, hNoFault⟩
      exact ⟨hAfter, fun fault hStopped =>
        absurd hStopped (hNoFault fault)⟩
  | misrouted hReadied hMisrouted =>
      have hOwn := (hReadied.keyed hKeyed).1
      exact absurd hOwn.partition.symm hMisrouted
  | ticked hWorker hWorked =>
      rcases hWorked.inRange hRange (hRange.workers _ _ hWorker)
        with ⟨hAfter, hNoFault⟩
      exact ⟨hAfter, fun fault hStopped =>
        absurd hStopped (hNoFault fault)⟩
  | released ps =>
      refine ⟨⟨?_, hRange.offsets.forget _⟩, by simp⟩
      intro q u hFound
      simp only [Engine.keepOnly, Table.get?_filterKeys] at hFound
      split at hFound
      case isTrue => exact hRange.workers q u hFound
      case isFalse => cases hFound
  | overflowed metrics fault hFault =>
      refine ⟨⟨hRange.workers, hRange.offsets⟩, ?_⟩
      rintro found ⟨⟩
      exact hFault
  | troubled cause backoff a =>
      refine ⟨⟨hRange.workers, hRange.offsets⟩, ?_⟩
      cases a <;> simp [Awaited.ending]
  | _ => exact ⟨⟨hRange.workers, hRange.offsets⟩, by simp⟩

theorem FlushMove.inRange
    (hMove : FlushMove m r m')
    (hRange : m.engine.InRange) :
    m'.engine.InRange := by
  rcases hMove with ⟨p, hOut⟩
  have hFlush
      {w w' : Worker}
      {answer : FlushEnd}
      {h' : History}
      (hWorker : m.engine.workers.get? p = some w)
      (hFlushed : w.Flushed .shutdown m.history answer w' h') :=
    hFlushed.inRange (hRange.workers p w hWorker)
  cases hOut with
  | acknowledged hWorker hFlushed =>
      rcases hFlush hWorker hFlushed with ⟨hAfter, hLast⟩
      exact ⟨hRange.workers.putWorker hAfter,
        hRange.offsets.markCommitted (hLast _ rfl)⟩
  | unstored hWorker hFlushed =>
      exact hRange.putWorker (hFlush hWorker hFlushed).1
  | cut hWorker hFlushed =>
      exact hRange.putWorker (hFlush hWorker hFlushed).1
  | unacknowledged cause hWorker hFlushed =>
      exact hRange.putWorker (hFlush hWorker hFlushed).1
  | lost hWorker hFlushed =>
      exact hRange.putWorker (hFlush hWorker hFlushed).1

/- At every moment of a run, all offsets are in range. -/
theorem Reaches.inRange
    {phase : Phase}
    (hReaches : Reaches start phase m)
    (hKeyed : start.engine.Keyed)
    (hStart : start.engine.InRange)
    (hHistory : m.history.InRange) :
    m.engine.InRange := by
  induction hReaches with
  | start => exact hStart
  | move hBefore hMove ih =>
      have hEarlier := ih (hHistory.of_suffix hMove.extends)
      exact (hMove.inRange (hBefore.keyed hKeyed) hEarlier
        hHistory).1
  | close _ _ ih =>
      exact ih (hHistory.of_suffix (List.suffix_cons _ _))
  | flush _ hMove ih =>
      exact hMove.inRange (ih (hHistory.of_suffix hMove.extends))
  | cut _ hMove ih =>
      exact hMove.inRange (ih (hHistory.of_suffix hMove.extends))
  | flushed _ ih => exact ih hHistory

------------------------------------------------------------
-- Exact Totals
------------------------------------------------------------

/- A checked sum fails exactly where the sum does not fit. -/
theorem Word.addNat_eq_error_iff
    {a b : UInt64}
    {fault : Fault} :
    addNat a b = .error fault ↔
      fault = .addition ∧ ¬ a.toNat + b.toNat < UInt64.size := by
  unfold addNat
  split
  case isTrue hFits => simp [hFits]
  case isFalse hLarge => simp [hLarge, eq_comm]

/- So do the sums of the counters of workers. -/
theorem Engine.sumBuffered_eq_error_iff
    {ws : List Worker}
    {fragments bytes : UInt64}
    {fault : Fault} :
    sumBuffered fragments bytes ws = .error fault ↔
      fault = .addition ∧
        ¬ (fragments.toNat + (ws.map (·.state.count.toNat)).sum <
              UInt64.size ∧
            bytes.toNat + (ws.map (·.state.bytes.toNat)).sum <
              UInt64.size) := by
  induction ws generalizing fragments bytes with
  | nil =>
      have hCount : fragments.toNat < UInt64.size :=
        fragments.toNat_lt
      have hSize : bytes.toNat < UInt64.size := bytes.toNat_lt
      simp [sumBuffered, hCount, hSize]
  | cons w ws ih =>
      simp only [List.map_cons, List.sum_cons]
      unfold sumBuffered
      split
      case h_1 count size hCount hSize =>
        rw [Word.addNat_eq_ok_iff] at hCount hSize
        rw [ih, hCount, hSize, Nat.add_assoc, Nat.add_assoc]
      case h_2 found hFault =>
        rw [Word.addNat_eq_error_iff] at hFault
        rcases hFault with ⟨rfl, hLarge⟩
        constructor
        · rintro ⟨⟩
          exact ⟨rfl, by omega⟩
        · rintro ⟨rfl, -⟩
          rfl
      case h_3 found hFault hCount =>
        rw [Word.addNat_eq_error_iff] at hFault
        rcases hFault with ⟨rfl, hLarge⟩
        constructor
        · rintro ⟨⟩
          exact ⟨rfl, by omega⟩
        · rintro ⟨rfl, -⟩
          rfl

/- How far a partition is ahead of what is committed, exactly. -/
def OffsetTracker.exactLag
    (o : OffsetTracker)
    (p : PartitionKey) : Nat :=
  (o.current? p).elim 0 fun last =>
    (last.toInt - ((o.committed? p).getD (-1)).toInt).toNat

/- The distance between offsets in range fits, and is cut at zero. -/
theorem OffsetTracker.exists_lagBetween
    {last : Int64}
    {committed : Option Int64}
    (hLast : -1 ≤ last.toInt ∧ last.toInt ≤ lastOffset)
    (hCommitted : ∀ n ∈ committed, IsOffset n) :
    ∃ lag, lagBetween last committed = .ok lag ∧
      lag.toInt =
        (last.toInt - (committed.getD (-1)).toInt).toNat := by
  have hNever : (-1 : Int64).toInt = -1 := by decide
  have hBound :
      -1 ≤ (committed.getD (-1)).toInt ∧
        (committed.getD (-1)).toInt ≤ lastOffset := by
    cases committed with
    | none =>
        rw [Option.getD_none, hNever]
        decide
    | some n =>
        rcases hCommitted n rfl with ⟨hLow, hHigh⟩
        rw [Option.getD_some]
        exact ⟨by omega, hHigh⟩
  unfold lagBetween
  generalize committed.getD (-1) = base at hBound
  have hFits : Word.FitsInt (last.toInt - base.toInt) := by
    unfold lastOffset at hLast hBound
    constructor <;> omega
  have hSub : Word.subInt last base = .ok (last - base) :=
    if_pos hFits
  have hDistance := Word.subInt_eq_ok_iff.mp hSub
  refine ⟨max 0 (last - base), by rw [hSub]; rfl, ?_⟩
  have hZero : (0 : Int64).toInt = 0 := rfl
  by_cases hAhead : (0 : Int64) ≤ last - base
  · rw [show max 0 (last - base) = last - base from
      if_pos hAhead]
    rw [Int64.le_iff_toInt_le, hZero] at hAhead
    omega
  · rw [show max 0 (last - base) = 0 from if_neg hAhead]
    rw [Int64.le_iff_toInt_le, hZero] at hAhead
    omega

/- The lag of a partition is exact. -/
theorem OffsetTracker.InRange.lag_eq
    (hRange : o.InRange)
    (p : PartitionKey) :
    ∃ lag, o.lag p = .ok lag ∧
      lag.elim 0 Int64.toInt = o.exactLag p := by
  unfold OffsetTracker.lag OffsetTracker.exactLag
  cases hCurrent : o.current? p with
  | none => exact ⟨none, rfl, rfl⟩
  | some last =>
      rcases OffsetTracker.exists_lagBetween
        (hRange.current p last hCurrent) (hRange.committed p) with
        ⟨lag, hLag, hExact⟩
      refine ⟨some lag, ?_, hExact⟩
      simp only [hLag]
      rfl

/- A checked sum of integers fails exactly where it does not fit. -/
theorem Word.addInt_eq_error_iff
    {a b : Int64}
    {fault : Fault} :
    addInt a b = .error fault ↔
      fault = .addition ∧ ¬ FitsInt (a.toInt + b.toInt) := by
  unfold addInt
  split
  case isTrue hFits => simp [hFits]
  case isFalse hLarge => simp [hLarge, eq_comm]

/- The sum of lags fails exactly where it does not fit. -/
theorem OffsetTracker.InRange.sumLags_eq_error_iff
    {ps : List PartitionKey}
    {before : Int64}
    {fault : Fault}
    (hRange : o.InRange)
    (hBefore : 0 ≤ before.toInt) :
    o.sumLags before ps = .error fault ↔
      fault = .addition ∧
        ¬ before.toInt + (ps.map o.exactLag).sum <
          9223372036854775808 := by
  induction ps generalizing before with
  | nil =>
      have hTop : before.toInt < 9223372036854775808 :=
        before.toInt_lt
      simp [sumLags, hTop]
  | cons p ps ih =>
      rcases hRange.lag_eq p with ⟨lag, hLag, hExact⟩
      rw [List.map_cons, List.sum_cons]
      unfold sumLags
      cases lag with
      | none =>
          have hNone : o.exactLag p = 0 := by
            simpa using hExact.symm
          simp only [hLag, hNone, Nat.zero_add]
          exact ih hBefore
      | some n =>
          have hSize : n.toInt = o.exactLag p := hExact
          simp only [hLag]
          split
          case h_1 found hFault =>
            rw [Word.addInt_eq_error_iff] at hFault
            rcases hFault with ⟨rfl, hLarge⟩
            unfold Word.FitsInt at hLarge
            constructor
            · rintro ⟨⟩
              exact ⟨rfl, by omega⟩
            · rintro ⟨rfl, -⟩
              rfl
          case h_2 next hAdd =>
            have hNext := Word.addInt_eq_ok_iff.mp hAdd
            rw [ih (by omega), hNext, hSize, Nat.cast_add,
              Int.add_assoc]

namespace Engine

/- The totals that the gauges show can be held by their words. -/
structure TotalsFit (e : Engine) : Prop where
  fragments :
    (e.workers.values.map (·.state.count.toNat)).sum < UInt64.size
  bytes :
    (e.workers.values.map (·.state.bytes.toNat)).sum < UInt64.size
  lag :
    (e.offsets.partitions.map e.offsets.exactLag).sum <
      9223372036854775808

/- Gauges fail exactly where a total does not fit. -/
theorem gaugesFail_iff
    {fault : Fault}
    (hRange : e.InRange) :
    e.GaugesFail fault ↔ fault = .addition ∧ ¬ e.TotalsFit := by
  have hZero : (0 : UInt64).toNat = 0 := rfl
  have hNone : (0 : Int64).toInt = 0 := rfl
  have hFits :
      e.TotalsFit ↔
        ((e.workers.values.map (·.state.count.toNat)).sum <
              UInt64.size ∧
            (e.workers.values.map (·.state.bytes.toNat)).sum <
              UInt64.size) ∧
          (e.offsets.partitions.map e.offsets.exactLag).sum <
            9223372036854775808 :=
    ⟨fun ⟨hCount, hSize, hLag⟩ => ⟨⟨hCount, hSize⟩, hLag⟩,
      fun ⟨⟨hCount, hSize⟩, hLag⟩ => ⟨hCount, hSize, hLag⟩⟩
  rw [GaugesFail, sumBuffered_eq_error_iff, OffsetTracker.totalLag,
    hRange.offsets.sumLags_eq_error_iff (by decide), ← and_or_left,
    ← not_and_or, hFits, hZero, hNone, Nat.zero_add, Nat.zero_add,
    Int.zero_add]
  norm_cast

/- Nothing that is subtracted overflows, and lags are exact. -/
structure Subtracts (e : Engine) : Prop where
  rewinds :
    ∀ p n, e.redeliveryOf p = some n →
      ∃ o, e.offsets.rewind p n = .ok o
  lags :
    ∀ p, ∃ lag, e.offsets.lag p = .ok lag ∧
      lag.elim 0 Int64.toInt = e.offsets.exactLag p

theorem InRange.subtracts
    (hRange : e.InRange) :
    e.Subtracts :=
  ⟨fun p _ hOffset =>
      e.offsets.exists_rewind p (hRange.redelivery hOffset),
    hRange.offsets.lag_eq⟩

/- Totals that were shown did fit. -/
theorem Gauged.totalsFit
    {metrics : Metrics}
    (hGauged : e.Gauged metrics)
    (hRange : e.InRange) :
    e.TotalsFit := by
  by_contra hLarge
  exact hGauged.not_gaugesFail .addition
    ((gaugesFail_iff hRange).mpr ⟨rfl, hLarge⟩)

/- A fresh engine keeps no offsets, and its totals are zero. -/
theorem inRange_fresh (settings : Settings) :
    (fresh settings).started.InRange :=
  ⟨nofun, nofun, nofun⟩

theorem totalsFit_fresh (settings : Settings) :
    (fresh settings).started.TotalsFit := by
  have hWorkers : (fresh settings).started.workers.values = [] :=
    rfl
  have hOffsets :
      (fresh settings).started.offsets.partitions = [] :=
    List.mergeSort_nil
  constructor
  · rw [hWorkers]
    decide
  · rw [hWorkers]
    decide
  · rw [hOffsets, List.map_nil, List.sum_nil]
    decide

end Engine

------------------------------------------------------------
-- Faults of Runs
------------------------------------------------------------

/- A loop that is stopped by a fault could not set its gauges. -/
theorem Reaches.gaugesFail
    (hReaches : Reaches start (.after r) m)
    (hKeyed : start.engine.Keyed)
    (hStart : start.engine.InRange)
    (hHistory : m.history.InRange) :
    ∀ fault, r = .error (.fault fault) →
      m.engine.GaugesFail fault := by
  refine hReaches.loop_induction
    (motive := fun r m =>
      m.history.InRange →
        ∀ fault, r = .error (.fault fault) →
          m.engine.GaugesFail fault)
    (fun _ => by simp) ?_ hHistory
  intro m r m' hBefore _ hMove hHistory
  have hRange :=
    hBefore.inRange hKeyed hStart
      (hHistory.of_suffix hMove.extends)
  exact (hMove.inRange (hBefore.keyed hKeyed) hRange hHistory).2

theorem Concludes.inRange
    {ending : Engine.RunEnd}
    (hConcludes : Concludes start ending m)
    (hKeyed : start.engine.Keyed)
    (hStart : start.engine.InRange)
    (hHistory : m.history.InRange) :
    m.engine.InRange := by
  have hReached
      {phase : Phase}
      {m : Moment}
      (hReaches : Reaches start phase m)
      (hHistory : m.history.InRange) :
      m.engine.InRange :=
    hReaches.inRange hKeyed hStart hHistory
  cases hConcludes with
  | unfinished hReaches => exact hReached hReaches hHistory
  | faulted hReaches => exact hReached hReaches hHistory
  | closed metrics hReaches =>
      have hRange := hReached hReaches hHistory
      exact ⟨hRange.workers, hRange.offsets⟩
  | overflowed metrics fault hReaches =>
      have hRange := hReached hReaches hHistory
      exact ⟨hRange.workers, hRange.offsets⟩

/- Steps that were completed have shown their totals. -/
theorem totalsFit_of_stepping
    (world : World σ)
    (settings : Settings)
    (done : Nat)
    (s : σ)
    {t : Session (σ × History)}
    (hSteps :
      (Engine.stepping world.recorded done).run.run
          ⟨(Engine.fresh settings).started, s, []⟩ =
        (.ok (), t))
    (hHistory : t.world.2.InRange) :
    t.engine.InRange ∧ t.engine.TotalsFit := by
  have hReaches : Reaches _ (.after (.ok ())) t.moment :=
    reaches_stepping world done hSteps
  have hRange : t.engine.InRange :=
    hReaches.inRange nofun (Engine.inRange_fresh settings) hHistory
  refine ⟨hRange, ?_⟩
  cases done with
  | zero =>
      cases hSteps
      exact Engine.totalsFit_fresh settings
  | succ done =>
      exact ((leads_stepping_gauged world.recorded done _).of_run_ok
        hSteps).totalsFit hRange

/- A final flush adds to what the steps of its run have left. -/
theorem FlushedAll.extends
    (hFlushed : FlushedAll m r m') :
    m.history <:+ m'.history := by
  rcases hFlushed with ⟨ps, -, hEach⟩
  have hGrows :=
    hEach.grows (P := fun _ => True) (fun _ => trivial)
      (fun _ _ => trivial) fun _ _ => trivial
  exact (List.suffix_cons _ _).trans hGrows.suffix

theorem Ended.extends
    {ending : Engine.RunEnd}
    (hEnded : Ended r m ending m') :
    m.history <:+ m'.history := by
  cases hEnded with
  | unfinished => exact List.suffix_rfl
  | faulted => exact List.suffix_rfl
  | closed hWhy hFlushed =>
      have hSuffix := hFlushed.extends
      exact hSuffix
  | overflowed metrics fault hWhy hFlushed =>
      have hSuffix := hFlushed.extends
      exact hSuffix

/- A run ends with a fault exactly where a total does not fit. -/
theorem Ended.fault_iff
    {ending : Engine.RunEnd}
    (hEnded : Ended r m ending m')
    (hRange : m'.engine.InRange)
    (hFits : r = .ok () → m.engine.TotalsFit)
    (hFails :
      ∀ fault, r = .error (.fault fault) →
        m.engine.GaugesFail fault)
    (fault : Fault) :
    ending = .fault fault ↔
      fault = .addition ∧ ¬ m'.engine.TotalsFit := by
  have hFault
      {found : Fault}
      (hGauges : m'.engine.GaugesFail found) :
      Engine.RunEnd.fault found = .fault fault ↔
        fault = .addition ∧ ¬ m'.engine.TotalsFit := by
    rcases (Engine.gaugesFail_iff hRange).mp hGauges with
      ⟨rfl, hLarge⟩
    constructor
    · rintro ⟨⟩
      exact ⟨rfl, hLarge⟩
    · rintro ⟨rfl, -⟩
      rfl
  cases hEnded with
  | unfinished => simp [hFits rfl]
  | faulted found => exact hFault (hFails found rfl)
  | @closed why m₀ m r metrics hWhy hFlushed hGauged =>
      have hShown :
          ∀ found, ¬ Engine.GaugesFail
            { m.engine with
              metrics := metrics
              health := m.engine.health.consumerStopped } found :=
        hGauged.not_gaugesFail
      constructor
      · intro hEnding
        cases why with
        | fault found => exact absurd rfl (hWhy found)
        | failed => cases hEnding
        | dropped => cases hEnding
      · rintro ⟨rfl, hLarge⟩
        exact absurd
          ((Engine.gaugesFail_iff hRange).mpr ⟨rfl, hLarge⟩)
          (hShown .addition)
  | overflowed metrics found hWhy hFlushed hGauges =>
      exact hFault hGauges

/-
  As long as offsets are followed by others, no subtraction of
  a run overflows, and no sum does while the exact total fits.
  Nothing but a total that does not fit ends a run with a
  fault.
-/
theorem overflows_of_run
    (world : World σ)
    (settings : Settings)
    (steps : Nat)
    (s : σ)
    (run : Engine.Run (σ × History))
    (hRun :
      Engine.run world.recorded steps (.fresh settings) (s, []) =
        run)
    (hOffsets : run.last.world.2.InRange) :
    (∀ fault,
        run.ending = .fault fault ↔
          fault = .addition ∧ ¬ run.last.engine.TotalsFit) ∧
      (∀ t ∈ run.atPolls,
        t.engine.TotalsFit ∧ t.engine.Subtracts) ∧
      run.last.engine.Subtracts := by
  subst hRun
  have hKeyed : (Engine.fresh settings).started.Keyed := nofun
  have hStart := Engine.inRange_fresh settings
  have hLast :=
    (run_reaches world steps (.fresh settings) s []).2.inRange
      hKeyed hStart hOffsets
  rcases ended_run world steps (.fresh settings) s [] with
    ⟨r, t, hSteps, hEnded⟩
  have hBefore : t.world.2.InRange :=
    hOffsets.of_suffix hEnded.extends
  refine ⟨?_, ?_, hLast.subtracts⟩
  · apply hEnded.fault_iff hLast
    · rintro rfl
      exact (totalsFit_of_stepping world settings steps s hSteps
        hBefore).2
    · exact (reaches_stepping world steps hSteps).gaugesFail hKeyed
        hStart hBefore
  · intro u hPoll
    rcases Engine.atPolls_stepping world.recorded steps _ u hPoll
      with ⟨done, hDone⟩
    have hHistory : u.world.2.InRange :=
      hOffsets.of_suffix (atPolls_extends world steps _ u hPoll)
    rcases totalsFit_of_stepping world settings done s hDone
      hHistory with ⟨hRange, hFits⟩
    exact ⟨hFits, hRange.subtracts⟩

/-
  A batch fails and is sent back to the first offset of all,
  and another partition delivers the last one.
-/
def Script.extremes : Script where
  polls :=
    [.fragment (fragment 0), .fragment (fragment 1),
      .fragment ⟨.empty, 5, ⟨foreign, 9223372036854775806⟩⟩]
  uploads := [.refused]
  assigned := [partition, foreign]

@[irreducible] def extremeRun : Engine.Run (Script × History) :=
  Engine.run Script.world.recorded 9 (.fresh Script.settings)
    (Script.extremes, [])

/- The largest lag there is does fit. -/
theorem overflows_of_extremeRun :
    extremeRun.last.world.2.InRange ∧
      extremeRun.atPolls.map (·.engine.metrics.consumerLag) =
        [0, 1, 0, 9223372036854775807] ∧
      (∀ fault, extremeRun.ending ≠ .fault fault) ∧
      extremeRun.last.engine.TotalsFit ∧
      ∀ t ∈ extremeRun.atPolls,
        t.engine.TotalsFit ∧ t.engine.Subtracts := by
  -- The kernel does not sort the partitions whose lags are added.
  have hDelivered :
      extremeRun.last.world.2.offsets =
        [9223372036854775806, 1, 0] := by
    unfold extremeRun
    decide_cbv
  have hOffsets : extremeRun.last.world.2.InRange := by
    rw [History.inRange_iff_all, hDelivered]
    decide +kernel
  have hLags :
      extremeRun.atPolls.map (·.engine.metrics.consumerLag) =
        [0, 1, 0, 9223372036854775807] := by
    unfold extremeRun
    decide_cbv
  have hEnding : extremeRun.ending = .stopped := by
    unfold extremeRun
    decide_cbv
  rcases overflows_of_run Script.world Script.settings 9
    Script.extremes extremeRun (by rw [extremeRun]) hOffsets with
    ⟨hFault, hPolls, -⟩
  refine ⟨hOffsets, hLags, ?_, ?_, hPolls⟩
  · intro fault hStopped
    cases hEnding.symm.trans hStopped
  · by_contra hLarge
    have hStopped := (hFault .addition).mpr ⟨rfl, hLarge⟩
    cases hEnding.symm.trans hStopped

/- Two partitions are read far ahead of what is committed. -/
def Script.farApart : Script where
  polls :=
    [.fragment (fragment 5000000000000000000),
      .fragment ⟨.empty, 5, ⟨foreign, 5000000000000000000⟩⟩]
  uploads := []
  assigned := [partition, foreign]

@[irreducible] def farApartRun : Engine.Run (Script × History) :=
  Engine.run Script.world.recorded 9 (.fresh Script.settings)
    (Script.farApart, [])

/- The sum of their lags overflows, and that ends the run. -/
theorem fault_of_farApartRun :
    farApartRun.last.world.2.InRange ∧
      farApartRun.ending = .fault .addition := by
  have hEnding : farApartRun.ending = .fault .addition := by
    unfold farApartRun
    decide_cbv
  have hDelivered :
      farApartRun.last.world.2.offsets =
        [5000000000000000000, 5000000000000000000] := by
    unfold farApartRun
    decide_cbv
  refine ⟨?_, hEnding⟩
  rw [History.inRange_iff_all, hDelivered]
  decide +kernel

end FragmentSink
