import FragmentSink.Proofs.Engine.Backing
import FragmentSink.Proofs.Engine.Gauges
import Mathlib

/-
  What the lag of an engine says about its buffers.

  Over a source that delivers each partition without gaps, the
  lag of a partition that has committed is the number of its
  pending fragments.  One that has not committed yet counts as
  committed up to the offset before zero, so its lag is ahead
  of that number by the offset its reading began at.

  Main declarations:
    * `History.reading?`
    * `History.Consecutive`
    * `Abreast`
    * `Moment.headStart`
    * `lag_of_steps`
-/

namespace FragmentSink

variable {p q : PartitionKey}
variable {f : Fragment}
variable {fs : List Fragment}
variable {w w' : Worker}
variable {h h' : History}
variable {o o' : OffsetTracker}
variable {m m₁ m' start : Moment}
variable {r : Except Stop Unit}
variable {answer : FlushEnd}

------------------------------------------------------------
-- Readings
------------------------------------------------------------

/-
  How far a partition is read: the offset its reading began at
  when it was last gained, and the one that comes next.
-/
structure Reading where
  began : Int
  next : Int

/- The reading of a partition after an event. -/
def Reading.after
    (p : PartitionKey)
    (x : Option Reading) : Event → Option Reading
| .poll (.done (.fragment f)) =>
    if f.partitionKey = p then
      some
        ⟨(x.map (·.began)).getD f.offset.toInt,
          f.offset.toInt + 1⟩
    else
      x
| .rewind q offset (.ok _) =>
    if q = p then
      x.map fun y => { y with next := offset.toInt }
    else
      x
| .assigned (.ok ps) => if p ∈ ps then x else none
| .started => none
| _ => x

/- An event that does not steer a partition does not move its reading. -/
theorem Reading.after_of_not_steers
    {x : Option Reading}
    {e : Event}
    (hEvent : ¬ e.Steers p) :
    Reading.after p x e = x := by
  unfold Reading.after
  split
  case h_1 => exact if_neg hEvent
  case h_2 => exact if_neg hEvent
  case h_3 => exact absurd trivial hEvent
  case h_4 => exact absurd trivial hEvent
  case h_5 => rfl

/- The reading of a partition, if it was read since it was gained. -/
def History.reading? (p : PartitionKey) : History → Option Reading
| [] => none
| e :: h => Reading.after p (reading? p h) e

/-
  A delivered fragment is the next of its reading, or begins
  one at an offset that is not negative.
-/
def Event.InSequence (h : History) : Event → Prop
| .poll (.done (.fragment f)) =>
    0 ≤ f.offset.toInt ∧
      ∀ x ∈ h.reading? f.partitionKey, f.offset.toInt = x.next
| _ => True

instance (h : History) : DecidablePred (Event.InSequence h)
| .poll (.done (.fragment f)) =>
    inferInstanceAs
      (Decidable
        (0 ≤ f.offset.toInt ∧
          ∀ x ∈ h.reading? f.partitionKey,
            f.offset.toInt = x.next))
| .poll (.done .quiet) | .poll (.done (.failed _ _ _))
| .poll .dropped | .clock _ | .upload _ _ | .commit _ _
| .rewind _ _ _ | .assigned _ | .noise _ | .sleep _ _
| .closing | .started => isTrue trivial

/- Every partition was delivered with consecutive offsets. -/
def History.Consecutive : History → Prop
| [] => True
| e :: h => e.InSequence h ∧ Consecutive h

instance History.decidableConsecutive :
    (h : History) → Decidable h.Consecutive
| [] => .isTrue trivial
| e :: h =>
    have := decidableConsecutive h
    inferInstanceAs (Decidable (e.InSequence h ∧ Consecutive h))

namespace History

theorem Consecutive.of_suffix
    (hConsecutive : h'.Consecutive)
    (hSuffix : h <:+ h') :
    h.Consecutive := by
  rcases hSuffix with ⟨es, rfl⟩
  induction es with
  | nil => exact hConsecutive
  | cons e es ih => exact ih hConsecutive.2

theorem reading?_grows
    (hGrows : Grows (fun e => ¬ e.Steers p) h h') :
    reading? p h' = reading? p h :=
  hGrows.induction (motive := fun g => reading? p g = reading? p h)
    rfl fun _ _ hEvent hEq =>
      (Reading.after_of_not_steers hEvent).trans hEq

end History

------------------------------------------------------------
-- Rows of Consecutive Offsets
------------------------------------------------------------

/- Fragments whose offsets count up from a number. -/
def Consecutively (n : Int) : List Fragment → Prop
| [] => True
| f :: fs => f.offset.toInt = n ∧ Consecutively (n + 1) fs

theorem Consecutively.append
    {n : Int}
    (hRow : Consecutively n fs)
    (hNext : f.offset.toInt = n + fs.length) :
    Consecutively n (fs ++ [f]) := by
  induction fs generalizing n with
  | nil => exact ⟨by simpa using hNext, trivial⟩
  | cons g fs ih =>
      refine ⟨hRow.1, ih hRow.2 ?_⟩
      rw [List.length_cons] at hNext
      omega

theorem Consecutively.getLast?
    {n : Int}
    (hRow : Consecutively n fs)
    (hLast : fs.getLast? = some f) :
    f.offset.toInt + 1 = n + fs.length := by
  induction fs generalizing n with
  | nil => cases hLast
  | cons g fs ih =>
      rw [List.length_cons]
      cases fs with
      | nil =>
          have hOnly : g = f := by simpa using hLast
          rw [← hOnly, hRow.1]
          rfl
      | cons g' fs =>
          have hRest := ih hRow.2 (by simpa using hLast)
          omega

------------------------------------------------------------
-- Trackers Abreast of Readings
------------------------------------------------------------

/- The offset up to which a partition counts as acknowledged, given where its reading began. -/
def OffsetTracker.settledTo
    (o : OffsetTracker)
    (p : PartitionKey)
    (began : Int) : Int :=
  (o.committed? p).elim began fun last => last.toInt + 1

/-
  What is pending for a partition is what was read of it after
  what is acknowledged, and the last of it was consumed last.
-/
structure Abreast
    (p : PartitionKey)
    (pending : List Fragment)
    (o : OffsetTracker)
    (x : Reading) : Prop where
  began : 0 ≤ x.began
  row : Consecutively (o.settledTo p x.began) pending
  next : o.settledTo p x.began + pending.length = x.next
  current :
    ∀ last ∈ o.current? p, last.toInt + 1 = x.next

namespace Abreast

variable {x : Reading}
variable {pending : List Fragment}

theorem of_eq
    (hAbreast : Abreast p pending o x)
    (hCurrent : o'.current? p = o.current? p)
    (hCommitted : o'.committed? p = o.committed? p) :
    Abreast p pending o' x := by
  have hSettled :
      o'.settledTo p x.began = o.settledTo p x.began := by
    rw [OffsetTracker.settledTo, hCommitted]
    rfl
  refine ⟨hAbreast.began, ?_, ?_, ?_⟩
  · rw [hSettled]
    exact hAbreast.row
  · rw [hSettled]
    exact hAbreast.next
  · rw [hCurrent]
    exact hAbreast.current

/- The next fragment of a reading is consumed, and is pending. -/
theorem deliver
    (hAbreast : Abreast p pending o x)
    (hKey : f.partitionKey = p)
    (hNext : f.offset.toInt = x.next) :
    Abreast p (pending ++ [f]) (o.updateCurrent f.token)
      ⟨x.began, f.offset.toInt + 1⟩ := by
  have hSame :
      (o.updateCurrent f.token).settledTo p x.began =
        o.settledTo p x.began :=
    rfl
  have hToken : f.token.key = p := hKey
  have hCount := hAbreast.next
  refine ⟨hAbreast.began, ?_, ?_, ?_⟩
  · rw [hSame]
    exact hAbreast.row.append (by rw [hNext, hCount])
  · change _ = f.offset.toInt + 1
    rw [hSame, List.length_append, List.length_singleton]
    omega
  · intro last hLast
    simp only [OffsetTracker.updateCurrent,
      OffsetTracker.current?, hToken, Table.get?_insert,
      if_true, Option.mem_def, Option.some.injEq] at hLast
    rw [← hLast]
    rfl

/- All that is pending is acknowledged. -/
theorem commit
    {t : OffsetToken}
    (hAbreast : Abreast p pending o x)
    (hKey : t.key = p)
    (hLast : pending.getLast?.map (·.token) = some t) :
    Abreast p [] (o.markCommitted t) x := by
  rcases Option.map_eq_some_iff.mp hLast with ⟨f, hFound, rfl⟩
  have hSettled :
      (o.markCommitted f.token).settledTo p x.began = x.next := by
    rw [← hAbreast.next, ← hAbreast.row.getLast? hFound]
    simp [OffsetTracker.settledTo, OffsetTracker.committed?,
      OffsetTracker.markCommitted, hKey, Fragment.offset]
  refine ⟨hAbreast.began, trivial, ?_, hAbreast.current⟩
  rw [hSettled]
  exact Int.add_zero _

/- All that is pending is given back to the source. -/
theorem rewind
    {first : Fragment}
    {rest : List Fragment}
    (hAbreast : Abreast p (first :: rest) o x)
    (hOffsets : o.rewind p first.offset = .ok o') :
    Abreast p [] o' { x with next := first.offset.toInt } := by
  rcases OffsetTracker.rewind_eq_ok hOffsets with
    ⟨last, hSub, rfl⟩
  have hBefore := Word.subInt_eq_ok_iff.mp hSub
  refine ⟨hAbreast.began, trivial, ?_, ?_⟩
  · exact (Int.add_zero _).trans hAbreast.row.1.symm
  · intro found hFound
    simp only [OffsetTracker.current?, Table.get?_insert,
      if_true, Option.mem_def, Option.some.injEq] at hFound
    have hOne : (1 : Int64).toInt = 1 := rfl
    rw [← hFound, hBefore]
    simp only [hOne]
    omega

end Abreast

------------------------------------------------------------
-- Moves
------------------------------------------------------------

/-
  The tracker is abreast of the reading of a partition, and a
  partition that is not read has no worker.
-/
structure Tracks (p : PartitionKey) (m : Moment) : Prop where
  unread :
    m.history.reading? p = none →
      m.engine.workers.get? p = none
  read :
    ∀ x ∈ m.history.reading? p,
      Abreast p (m.engine.pendingOf p) m.engine.offsets x

/- What a settled outcome leaves is abreast again. -/
theorem Settled.abreast
    {elapsed : Span}
    {x : Reading}
    (hSettled :
      Settled p elapsed ⟨m.engine.putWorker p w', h⟩ answer
        (.ok ()) m')
    (hHands : w.HandsOver w' h answer)
    (hKey : ∀ b, answer = .committed b → b.last.key = p)
    (hRead : h.reading? p = some x)
    (hAbreast : Abreast p w.pending m.engine.offsets x) :
    ∃ x' ∈ m'.history.reading? p,
      Abreast p (m'.engine.pendingOf p) m'.engine.offsets x' := by
  have hPending : m'.engine.pendingOf p = w'.pending := by
    unfold Engine.pendingOf
    rw [hSettled.workers_eq]
    exact m.engine.pendingOf_putWorker p w'
  rw [hPending]
  generalize hEnd : (Except.ok () : Except Stop Unit) = r
    at hSettled
  cases hSettled with
  | nothing =>
      rw [hHands]
      exact ⟨x, hRead, hAbreast⟩
  | acknowledged b =>
      rcases hHands with ⟨hEmpty, -, hLast⟩
      rw [hEmpty, Engine.offsets_recovered]
      exact ⟨x, hRead, hAbreast.commit (hKey b rfl) hLast⟩
  | unacknowledged => cases hEnd
  | lost => cases hEnd
  | halted => cases hEnd
  | unsent => cases hEnd
  | untracked => cases hEnd
  | waited n backoff offset offsets a _ hOffset hOffsets =>
      rcases hHands with ⟨hEmpty, first, more, hBatch, hFirst⟩
      rw [Engine.redeliveryOf_putWorker, hFirst] at hOffset
      cases hOffset
      rw [hBatch] at hAbreast
      rw [hEmpty]
      refine ⟨_, ?_, hAbreast.rewind hOffsets⟩
      simp [History.reading?, Reading.after, hRead]

theorem Worked.abreast
    {x : Reading}
    (hWorked : Worked p w m (.ok ()) m')
    (hWorker : w.Keyed p)
    (hRead : m.history.reading? p = some x)
    (hAbreast : Abreast p w.pending m.engine.offsets x) :
    ∃ x' ∈ m'.history.reading? p,
      Abreast p (m'.engine.pendingOf p) m'.engine.offsets x' := by
  cases hWorked with
  | @settled answer _ _ _ _ elapsed hTicked hAnswer hSettled =>
      have hKey (b : CommittedBatch) :
          answer = .committed b → b.last.key = p := by
        rintro rfl
        exact hTicked.last_key hWorker
      have hSame := History.reading?_grows (p := p) hTicked.still
      exact hSettled.abreast hTicked.handsOver hKey
        (hSame.trans hRead) hAbreast

/- A reading that is abreast is tracked. -/
theorem Tracks.of_abreast
    (hRead :
      ∃ x ∈ m.history.reading? p,
        Abreast p (m.engine.pendingOf p) m.engine.offsets x) :
    Tracks p m := by
  rcases hRead with ⟨x, hFound, hAbreast⟩
  have hFound : m.history.reading? p = some x := hFound
  constructor
  · rw [hFound]
    exact nofun
  · intro y hOther
    cases hFound.symm.trans hOther
    exact hAbreast

theorem Tracks.apart
    (hTracks : Tracks p m)
    (hApart : Apart p m m') :
    Tracks p m' := by
  have hSame := History.reading?_grows hApart.still
  constructor
  · rw [hSame, hApart.worker]
    exact hTracks.unread
  · rw [hSame, hApart.pendingOf_eq]
    intro x hFound
    exact (hTracks.read x hFound).of_eq hApart.current
      hApart.committed

/- A delivered fragment continues the reading of its partition, or begins one. -/
theorem Tracks.deliver
    (hTracks : Tracks p m)
    (hBacked : Backed p m)
    (hKey : f.partitionKey = p)
    (hSequence :
      Event.InSequence m.history (.poll (.done (.fragment f)))) :
    ∃ x ∈ History.reading? p
          (.poll (.done (.fragment f)) :: m.history),
      Abreast p (m.engine.pendingOf p ++ [f])
        (m.engine.offsets.updateCurrent f.token) x := by
  subst hKey
  rcases hSequence with ⟨hNatural, hNext⟩
  cases hFound : m.history.reading? f.partitionKey with
  | some x =>
      have hAbreast := hTracks.read x hFound
      refine ⟨_, ?_, hAbreast.deliver rfl (hNext x hFound)⟩
      simp [History.reading?, Reading.after, hFound]
  | none =>
      have hWorker := hTracks.unread hFound
      have hCommitted :
          m.engine.offsets.committed? f.partitionKey = none := by
        cases hOffset :
            m.engine.offsets.committed? f.partitionKey with
        | none => rfl
        | some offset =>
            exact absurd hWorker (hBacked.committed _ hOffset).1
      have hPending : m.engine.pendingOf f.partitionKey = [] := by
        simp [Engine.pendingOf, hWorker]
      have hCurrent :
          m.engine.offsets.current? f.partitionKey = none :=
        hBacked.current.mpr hWorker
      -- A reading that begins here would have nothing pending.
      have hBegun :
          Abreast f.partitionKey [] m.engine.offsets
            ⟨f.offset.toInt, f.offset.toInt⟩ := by
        refine ⟨hNatural, trivial, ?_, ?_⟩
        · simp [OffsetTracker.settledTo, hCommitted]
        · simp [hCurrent]
      rw [hPending]
      refine ⟨_, ?_, hBegun.deliver rfl rfl⟩
      simp [History.reading?, Reading.after, hFound]

/- A readied worker has what was pending for its partition. -/
theorem Readied.abreast
    {x : Reading}
    (hReadied :
      Readied p
        ⟨m.engine.taking f,
          .poll (.done (.fragment f)) :: m.history⟩ w m₁)
    (hRead :
      History.reading? p
          (.poll (.done (.fragment f)) :: m.history) =
        some x)
    (hAbreast :
      Abreast p (m.engine.pendingOf p ++ fs)
        (m.engine.offsets.updateCurrent f.token) x) :
    m₁.history.reading? p = some x ∧
      Abreast p (w.pending ++ fs) m₁.engine.offsets x := by
  cases hReadied with
  | kept w hFound =>
      have hFound : m.engine.workers.get? p = some w := hFound
      rw [Engine.pendingOf_of_get? hFound] at hAbreast
      exact ⟨hRead, hAbreast⟩
  | opened now hNone =>
      have hNone : m.engine.workers.get? p = none := hNone
      rw [Engine.pendingOf, hNone] at hAbreast
      exact ⟨hRead, hAbreast⟩

/- An assignment keeps a reading, or ends it with its worker. -/
theorem Tracks.released
    (hTracks : Tracks p m)
    (ps : List PartitionKey) :
    Tracks p
      ⟨m.engine.keepOnly ps, .assigned (.ok ps) :: m.history⟩ := by
  by_cases hKept : p ∈ ps
  · have hPending :
        (m.engine.keepOnly ps).pendingOf p =
          m.engine.pendingOf p := by
      simp [Engine.pendingOf, Engine.keepOnly, hKept]
    have hSame :
        History.reading? p (.assigned (.ok ps) :: m.history) =
          m.history.reading? p :=
      if_pos hKept
    have hOffsets := m.engine.offsets_keepOnly hKept
    constructor
    · rw [hSame]
      intro hUnread
      simpa [Engine.keepOnly, hKept] using hTracks.unread hUnread
    · rw [hSame, hPending]
      intro x hFound
      exact (hTracks.read x hFound).of_eq hOffsets.1 hOffsets.2
  · have hEnded :
        History.reading? p (.assigned (.ok ps) :: m.history) =
          none :=
      if_neg hKept
    constructor
    · intro _
      simp [Engine.keepOnly, hKept]
    · rw [hEnded]
      intro x hFound
      cases hFound

theorem Own.tracks
    (hOwn : Own p m (.ok ()) m')
    (hBacked : Backed p m)
    (hConsecutive : m'.history.Consecutive)
    (hTracks : Tracks p m) :
    Tracks p m' := by
  cases hOwn with
  | delivered hKey hReadied hWorker hWorked =>
      have hSequence :=
        (hConsecutive.of_suffix
          (hReadied.calls.trans hWorked.calls).suffix).1
      rcases hTracks.deliver hBacked hKey hSequence with
        ⟨x, hFound, hAbreast⟩
      rcases hReadied.abreast hFound hAbreast with
        ⟨hRead, hLoaded⟩
      exact .of_abreast (hWorked.abreast hWorker hRead hLoaded)
  | released ps => exact hTracks.released ps
  | @ticked w _ _ hFound hWorker hWorked =>
      cases hRead : m.history.reading? p with
      | none => cases hFound.symm.trans (hTracks.unread hRead)
      | some x =>
          have hAbreast := hTracks.read x hRead
          rw [Engine.pendingOf_of_get? hFound] at hAbreast
          exact .of_abreast (hWorked.abreast hWorker hRead hAbreast)

/- A running engine tracks every partition. -/
theorem Reaches.tracks
    (hReaches : Reaches start (.after r) m)
    (hKeyed : start.engine.Keyed)
    (hBacked : Backed p start)
    (hStart : Tracks p start)
    (hRunning : r = .ok ())
    (hConsecutive : m.history.Consecutive) :
    Tracks p m := by
  refine hReaches.loop_induction
    (motive := fun r m =>
      r = .ok () → m.history.Consecutive → Tracks p m)
    (fun _ _ => hStart) ?_ hRunning hConsecutive
  intro m r m' hBefore ih hMove hOk hAfter
  subst hOk
  have hTracks := ih rfl (hAfter.of_suffix hMove.extends)
  rcases hMove.own_or_apart p (hBefore.keyed hKeyed) with
    hOwn | hApart
  · exact hOwn.tracks (hBefore.backed hKeyed hBacked) hAfter hTracks
  · exact hTracks.apart hApart

------------------------------------------------------------
-- Lags
------------------------------------------------------------

/-
  How far the lag of a partition is ahead of what is pending: by
  the offset its reading began at, until it has committed.
-/
def Moment.headStart (m : Moment) (p : PartitionKey) : Nat :=
  if m.engine.offsets.committed? p = none then
    (m.history.reading? p).elim 0 (·.began.toNat)
  else
    0

/- The distance to what is committed, where that is not ahead. -/
theorem OffsetTracker.toInt_lagBetween
    {last lag : Int64}
    {committed : Option Int64}
    (hLag : lagBetween last committed = .ok lag)
    (hBehind : (committed.getD (-1)).toInt ≤ last.toInt) :
    lag.toInt = last.toInt - (committed.getD (-1)).toInt := by
  unfold lagBetween at hLag
  cases hSub : Word.subInt last (committed.getD (-1)) with
  | error fault => simp [hSub, Except.map] at hLag
  | ok n =>
      rw [hSub] at hLag
      cases hLag
      have hDistance := Word.subInt_eq_ok_iff.mp hSub
      have hZero : (0 : Int64) ≤ n := by
        rw [Int64.le_iff_toInt_le, hDistance]
        have hNone : (0 : Int64).toInt = 0 := rfl
        omega
      rw [← hDistance]
      exact congrArg Int64.toInt (if_pos hZero)

/- The lag of a partition that is tracked and has a worker. -/
theorem Tracks.lag_eq
    {lag : Option Int64}
    (hTracks : Tracks p m)
    (hBacked : Backed p m)
    (hFound : m.engine.workers.get? p ≠ none)
    (hLag : m.engine.offsets.lag p = .ok lag) :
    ∃ n, lag = some n ∧
      n.toInt =
        ((m.engine.pendingOf p).length + m.headStart p : Nat) := by
  cases hRead : m.history.reading? p with
  | none => exact absurd (hTracks.unread hRead) hFound
  | some x =>
      have hAbreast := hTracks.read x hRead
      have hBegan := hAbreast.began
      have hCount := hAbreast.next
      cases hCurrent : m.engine.offsets.current? p with
      | none => exact absurd (hBacked.current.mp hCurrent) hFound
      | some last =>
          have hLast := hAbreast.current last hCurrent
          simp only [OffsetTracker.lag, hCurrent] at hLag
          cases hBetween :
              OffsetTracker.lagBetween last
                (m.engine.offsets.committed? p) with
          | error fault =>
              rw [hBetween] at hLag
              cases hLag
          | ok n =>
              rw [hBetween] at hLag
              cases hLag
              refine ⟨n, rfl, ?_⟩
              have hDistance :=
                OffsetTracker.toInt_lagBetween hBetween
              have hNever : (-1 : Int64).toInt = -1 := by decide
              cases hCommitted :
                  m.engine.offsets.committed? p with
              | none =>
                  simp only [hCommitted, Option.getD_none, hNever]
                    at hDistance
                  simp only [OffsetTracker.settledTo, hCommitted,
                    Option.elim_none] at hCount
                  simp only [Moment.headStart, hCommitted, hRead,
                    if_true, Option.elim_some]
                  omega
              | some done =>
                  simp only [hCommitted, Option.getD_some]
                    at hDistance
                  simp only [OffsetTracker.settledTo, hCommitted,
                    Option.elim_some] at hCount
                  simp only [Moment.headStart, hCommitted,
                    if_neg (Option.some_ne_none done)]
                  omega

/- Where the lags of partitions are known, so is their sum. -/
theorem OffsetTracker.toInt_sumLags
    {ps : List PartitionKey}
    {before total : Int64}
    (size : PartitionKey → Nat)
    (hSum : o.sumLags before ps = .ok total)
    (hEach :
      ∀ p ∈ ps, ∀ lag, o.lag p = .ok lag →
        ∃ n, lag = some n ∧ n.toInt = size p) :
    total.toInt = before.toInt + (ps.map size).sum := by
  induction ps generalizing before with
  | nil =>
      cases hSum
      simp
  | cons p ps ih =>
      rw [List.forall_mem_cons] at hEach
      rw [sumLags] at hSum
      split at hSum
      case h_1 => cases hSum
      case h_2 hLag =>
        rcases hEach.1 _ hLag with ⟨n, hNone, -⟩
        cases hNone
      case h_3 n hLag =>
        rcases hEach.1 _ hLag with ⟨n', hSome, hSize⟩
        cases hSome
        split at hSum
        case h_1 => cases hSum
        case h_2 next hAdd =>
          have hNext := Word.addInt_eq_ok_iff.mp hAdd
          have hRest := ih hSum hEach.2
          rw [List.map_cons, List.sum_cons]
          omega

/- The partitions with tracked offsets are those with workers. -/
theorem perm_partitions
    (hBacked : ∀ p, Backed p m) :
    m.engine.offsets.partitions.Perm m.engine.workers.keys := by
  have hKeys :
      m.engine.offsets.current.keys.Perm m.engine.workers.keys := by
    apply (List.perm_ext_iff_of_nodup
      m.engine.offsets.current.nodup m.engine.workers.nodup).mpr
    intro p
    have hSame := not_congr (hBacked p).current
    exact (Table.mem_keys_iff.trans hSame).trans
      Table.mem_keys_iff.symm
  exact (List.mergeSort_perm _ _).trans hKeys

/- What is pending for the partitions with workers is all that is. -/
theorem Engine.sum_pendingOf (e : Engine) :
    (e.workers.keys.map fun p => (e.pendingOf p).length).sum =
      e.allPending.length := by
  have hEntries :
      (e.workers.keys.map fun p => (e.pendingOf p).length) =
        e.workers.values.map (·.pending.length) := by
    rw [Table.keys, Table.values, List.map_map, List.map_map]
    apply List.map_congr_left
    intro entry hEntry
    have hFound : e.workers.get? entry.1 = some entry.2 :=
      Table.get?_of_mem hEntry
    simp [Engine.pendingOf, hFound]
  rw [hEntries, Engine.allPending, List.length_flatMap]

------------------------------------------------------------
-- Steps
------------------------------------------------------------

/- The lags of all partitions, where each is tracked. -/
theorem toInt_totalLag
    {lag : Int64}
    (hTracks : ∀ p, Tracks p m)
    (hBacked : ∀ p, Backed p m)
    (hLag : m.engine.offsets.totalLag = .ok lag) :
    lag.toInt =
      (m.engine.allPending.length +
        (m.engine.workers.keys.map m.headStart).sum : Nat) := by
  have hPerm := perm_partitions hBacked
  have hSum :=
    OffsetTracker.toInt_sumLags
      (fun p => (m.engine.pendingOf p).length + m.headStart p) hLag
      fun p hMember lag hLag =>
        (hTracks p).lag_eq (hBacked p)
          (Table.mem_keys_iff.mp (hPerm.mem_iff.mp hMember)) hLag
  have hZero : (0 : Int64).toInt = 0 := rfl
  rw [(hPerm.map _).sum_eq, List.sum_map_add,
    Engine.sum_pendingOf, hZero, Int.zero_add] at hSum
  exact hSum

/- The gauge of the lag is set to the lags of all partitions. -/
theorem Engine.Gauged.consumerLag
    {e : Engine}
    {metrics : Metrics}
    (hGauged : e.Gauged metrics) :
    ∃ lag, e.offsets.totalLag = .ok lag ∧
      metrics.consumerLag = UInt64.ofNat lag.toInt.toNat := by
  cases hGauged with
  | set hSums hLag => exact ⟨_, hLag, rfl⟩

/- Without a committed offset, a head start is where the reading began. -/
theorem Moment.headStart_eq_zero_iff
    (hTracks : Tracks p m) :
    m.headStart p = 0 ↔
      (m.engine.offsets.committed? p = none →
        ∀ x ∈ m.history.reading? p, x.began = 0) := by
  unfold headStart
  by_cases hCommitted : m.engine.offsets.committed? p = none
  · rw [if_pos hCommitted]
    cases hRead : m.history.reading? p with
    | none => simp
    | some x =>
        have hBegan := (hTracks.read x hRead).began
        simp only [Option.elim_some, hCommitted, forall_const,
          Option.mem_def, Option.some.injEq, forall_eq']
        omega
  · simp [hCommitted]

/-
  After every step over a source without gaps, the lag is the
  number of buffered fragments and the head starts of all
  partitions.  So it is that number exactly where the reading
  of each partition that has not committed began at zero.
-/
theorem lag_of_steps
    {σ : Type}
    (world : World σ)
    (settings : Settings)
    (done : Nat)
    (s : σ)
    {t : Session (σ × History)}
    (hSteps :
      (Engine.stepping world.recorded (done + 1)).run.run
          ⟨(Engine.fresh settings).started, s, []⟩ =
        (.ok (), t))
    (hConsecutive : t.world.2.Consecutive) :
    t.engine.metrics.bufferedFragments.toNat =
        t.engine.allPending.length ∧
      t.engine.metrics.consumerLag.toNat =
        t.engine.metrics.bufferedFragments.toNat +
          (t.engine.workers.keys.map t.moment.headStart).sum ∧
      (t.engine.metrics.consumerLag =
          t.engine.metrics.bufferedFragments ↔
        ∀ p ∈ t.engine.workers.keys,
          t.engine.offsets.committed? p = none →
            ∀ x ∈ t.world.2.reading? p, x.began = 0) := by
  have hReaches : Reaches _ (.after (.ok ())) t.moment :=
    reaches_stepping world (done + 1) hSteps
  have hKeyed : (Engine.fresh settings).started.Keyed := nofun
  have hBacked
      (p : PartitionKey) :
      Backed p ⟨(Engine.fresh settings).started, []⟩ :=
    .of_none rfl rfl rfl rfl nofun
  have hTracks (p : PartitionKey) : Tracks p t.moment :=
    hReaches.tracks hKeyed (hBacked p)
      ⟨fun _ => rfl, nofun⟩ rfl hConsecutive
  have hGauged :=
    (leads_stepping_gauged world.recorded done _).of_run_ok hSteps
  rcases hGauged.consumerLag with ⟨lag, hLag, hGauge⟩
  have hTotal :
      lag.toInt =
        (t.engine.allPending.length +
          (t.engine.workers.keys.map t.moment.headStart).sum :
            Nat) :=
    toInt_totalLag hTracks
      (fun p => hReaches.backed hKeyed (hBacked p)) hLag
  have hTop := lag.toInt_lt
  have hWord : UInt64.size = 2 ^ 64 := rfl
  have hFits : t.engine.allPending.length < UInt64.size := by
    omega
  have hBuffered :
      t.engine.metrics.bufferedFragments.toNat =
        t.engine.allPending.length := by
    have hMirrors := (hReaches.mirrors nofun).1 rfl
    have hSet := hGauged.gaugesSet t.engine.health
    exact hSet.toNat_eq.1.trans
      (count_of_mirrors (fun _ => hMirrors.of_mem_values) hFits)
  have hConsumer :
      t.engine.metrics.consumerLag.toNat =
        t.engine.metrics.bufferedFragments.toNat +
          (t.engine.workers.keys.map t.moment.headStart).sum := by
    have hKept :
        (UInt64.ofNat lag.toInt.toNat).toNat = lag.toInt.toNat :=
      UInt64.toNat_ofNat_of_lt (by omega)
    rw [hGauge, hKept, hTotal, hBuffered]
    rfl
  refine ⟨hBuffered, hConsumer, ?_⟩
  rw [← UInt64.toNat_inj, hConsumer, Nat.add_eq_left,
    List.sum_eq_zero_iff, List.forall_mem_map]
  apply forall₂_congr
  intro p _
  exact Moment.headStart_eq_zero_iff (hTracks p)

/- A reading that begins at five, with a batch that is delivered again. -/
def Script.lateStart : Script where
  polls := [5, 6, 5, 6, 7].map fun offset => .fragment (fragment offset)
  uploads := [.stored, .refused]
  assigned := [partition]

@[irreducible] def caughtUp :
    Except Stop Unit × Session (Script × History) :=
  (Engine.stepping Script.world.recorded 5).run.run
    ⟨(Engine.fresh Script.settings).started, Script.lateStart, []⟩

theorem lag_of_caughtUp :
    caughtUp.1 = .ok () ∧
      caughtUp.2.world.2.Consecutive ∧
      caughtUp.2.engine.offsets.committed? Script.partition =
        some 6 ∧
      caughtUp.2.engine.metrics.redeliveries = 1 ∧
      caughtUp.2.engine.metrics.bufferedFragments = 1 ∧
      caughtUp.2.engine.metrics.consumerLag =
        caughtUp.2.engine.metrics.bufferedFragments := by
  have hOk : caughtUp.1 = .ok () := by decide +kernel
  have hConsecutive : caughtUp.2.world.2.Consecutive := by
    decide +kernel
  have hKeys :
      caughtUp.2.engine.workers.keys = [Script.partition] := by
    decide +kernel
  have hCommitted :
      caughtUp.2.engine.offsets.committed? Script.partition =
        some 6 := by
    decide +kernel
  have hSteps :
      (Engine.stepping Script.world.recorded 5).run.run
          ⟨(Engine.fresh Script.settings).started,
            Script.lateStart, []⟩ =
        (.ok (), caughtUp.2) := by
    rw [← hOk, Prod.eta, caughtUp]
  have hLag :=
    lag_of_steps Script.world Script.settings 4 Script.lateStart
      hSteps hConsecutive
  refine ⟨hOk, hConsecutive, hCommitted, by decide +kernel,
    by decide +kernel, ?_⟩
  apply hLag.2.2.mpr
  intro p hMember hNever
  rw [hKeys, List.mem_singleton] at hMember
  rw [hMember, hCommitted] at hNever
  cases hNever

@[irreducible] def lateStep :
    Except Stop Unit × Session (Script × History) :=
  (Engine.stepping Script.world.recorded 1).run.run
    ⟨(Engine.fresh Script.settings).started, Script.lateStart, []⟩

/- One fragment is buffered, and the lag is six. -/
theorem lag_ne_buffered_of_lateStep :
    lateStep.1 = .ok () ∧
      lateStep.2.world.2.Consecutive ∧
      lateStep.2.engine.allPending = [Script.fragment 5] ∧
      lateStep.2.engine.metrics.bufferedFragments = 1 ∧
      lateStep.2.engine.metrics.consumerLag = 6 ∧
      lateStep.2.engine.metrics.consumerLag ≠
        lateStep.2.engine.metrics.bufferedFragments := by
  decide +kernel

end FragmentSink
