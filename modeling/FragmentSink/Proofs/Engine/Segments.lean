import FragmentSink.Proofs.Commits
import FragmentSink.Proofs.Engine.Apart
import FragmentSink.Proofs.Script

/-
  A buffer is the unacknowledged segment of its partition.

  While a partition stays assigned and its source delivers in
  order, the pending fragments are those after the last
  acknowledged offset and before the place of the source, and
  the acknowledged batches are the journal before them.

  Main declarations:
    * `Journal.Segmented`
    * `Journal.Flowing`
    * `Reaches.segments`
    * `segments_of_run`
-/

namespace FragmentSink

open History

variable {p : PartitionKey}
variable {j : Journal p}
variable {h h' : History}
variable {pending rest : List Fragment}
variable {o o' : OffsetTracker}

------------------------------------------------------------
-- Segments
------------------------------------------------------------

/- An assignment that is read does not leave a partition out. -/
def Event.Assigns (p : PartitionKey) : Event → Prop
| .assigned (.ok ps) => p ∈ ps
| _ => True

instance (p : PartitionKey) : DecidablePred (Event.Assigns p)
| .assigned (.ok ps) => inferInstanceAs (Decidable (p ∈ ps))
| .assigned (.error _) | .clock _ | .upload _ _ | .poll _
| .commit _ _ | .rewind _ _ _ | .noise _ | .sleep _ _
| .closing | .started => isTrue trivial

namespace Journal

/-
  The journal is tiled, the tracker has the last acknowledged
  offset as committed, and it has consumed all that is done
  or pending.
-/
structure Segmented
    (j : Journal p)
    (pending : List Fragment)
    (o : OffsetTracker)
    (h : History)
    (rest : List Fragment) : Prop where
  tiled : j.Tiled h pending rest
  committed : o.committed? p = lastDone p h
  current :
    ∀ f ∈ (doneBatches p h).flatten ++ pending,
      ∃ last, o.current? p = some last ∧ f.offset ≤ last

/-
  While the engine runs, the rest is what the source has yet
  to deliver, and every commit was acknowledged.
-/
structure Flowing
    (j : Journal p)
    (pending : List Fragment)
    (o : OffsetTracker)
    (h : History) : Prop extends
    j.Segmented pending o h (j.cursorAt h).unread where
  allDone : ∀ call ∈ commitCalls p h, call.isDone = true

theorem Segmented.of_eq
    (hSegmented : j.Segmented pending o h rest)
    (hCalls : commitCalls p h' = commitCalls p h)
    (hCurrent : o'.current? p = o.current? p)
    (hCommitted : o'.committed? p = o.committed? p) :
    j.Segmented pending o' h' rest := by
  have hDone : doneCalls p h' = doneCalls p h := by
    rw [doneCalls, hCalls]
    rfl
  refine ⟨hSegmented.tiled.of_commitCalls_eq hCalls, ?_, ?_⟩
  · rw [hCommitted, lastDone, hDone]
    exact hSegmented.committed
  · rw [hCurrent, doneBatches, hDone]
    exact hSegmented.current

theorem Flowing.of_eq
    (hFlowing : j.Flowing pending o h)
    (hCalls : commitCalls p h' = commitCalls p h)
    (hUnread : (j.cursorAt h').unread = (j.cursorAt h).unread)
    (hCurrent : o'.current? p = o.current? p)
    (hCommitted : o'.committed? p = o.committed? p) :
    j.Flowing pending o' h' := by
  refine ⟨?_, ?_⟩
  · rw [hUnread]
    exact hFlowing.toSegmented.of_eq hCalls hCurrent hCommitted
  · rw [hCalls]
    exact hFlowing.allDone

/- Events that do not steer a partition change no segment of it. -/
theorem Flowing.grows
    (hFlowing : j.Flowing pending o h)
    (hGrows : Grows (fun e => ¬ e.Steers p) h h') :
    j.Flowing pending o h' :=
  hFlowing.of_eq (commitCalls_grows hGrows)
    (congrArg Cursor.unread (j.cursorAt_grows hGrows)) rfl rfl

theorem Segmented.grows
    (hSegmented : j.Segmented pending o h rest)
    (hGrows : Grows (fun e => ¬ e.Steers p) h h') :
    j.Segmented pending o h' rest :=
  hSegmented.of_eq (commitCalls_grows hGrows) rfl rfl

/- What is pending may be given up, and belongs to the rest then. -/
theorem Segmented.giveUp
    (hSegmented : j.Segmented pending o h rest) :
    j.Segmented [] o h (pending ++ rest) := by
  refine ⟨hSegmented.tiled.giveUp, hSegmented.committed, ?_⟩
  intro f hMember
  rw [List.append_nil] at hMember
  exact hSegmented.current f (List.mem_append_left _ hMember)

/- Before anything has happened, all of the journal is to come. -/
theorem flowing_nil (j : Journal p) : j.Flowing [] .empty [] :=
  ⟨⟨j.tiled_nil, rfl, nofun⟩, nofun⟩

/- A delivered fragment joins the segment, and is the last consumed. -/
theorem Flowing.deliver
    {f : Fragment}
    (hFlowing : j.Flowing pending o h)
    (hKey : f.partitionKey = p)
    (hOrder : j.InOrder (.poll (.done (.fragment f)) :: h)) :
    j.Flowing (pending ++ [f]) (o.updateCurrent f.token)
      (.poll (.done (.fragment f)) :: h) := by
  have hTiled := hFlowing.tiled
  rw [hOrder.unread_eq hKey] at hTiled
  have hCurrent :
      (o.updateCurrent f.token).current? p = some f.offset := by
    have hToken : f.token.key = p := hKey
    simp [OffsetTracker.updateCurrent, OffsetTracker.current?,
      hToken, Fragment.offset]
  refine ⟨⟨?_, hFlowing.committed, ?_⟩, hFlowing.allDone⟩
  · exact (hTiled.deliver hFlowing.allDone).of_commitCalls_eq rfl
  · intro g hMember
    refine ⟨f.offset, hCurrent, ?_⟩
    have hIncreasing := j.increasing
    rw [← hTiled.split, ← List.append_assoc,
      List.pairwise_append] at hIncreasing
    rw [← List.append_assoc] at hMember
    rcases List.mem_append.mp hMember with hOld | hNew
    · exact Int64.le_of_lt
        (hIncreasing.2.2 g hOld f List.mem_cons_self)
    · rw [List.mem_singleton.mp hNew]
      exact Int64.le_refl _

/- A partition that stays assigned keeps its segment. -/
theorem Flowing.assigned
    {ps : List PartitionKey}
    (hFlowing : j.Flowing pending o h)
    (hAssigned : p ∈ ps)
    (hCurrent : o'.current? p = o.current? p)
    (hCommitted : o'.committed? p = o.committed? p) :
    j.Flowing pending o' (.assigned (.ok ps) :: h) := by
  have hCalls :
      commitCalls p (.assigned (.ok ps) :: h) =
        commitCalls p h :=
    rfl
  apply hFlowing.of_eq hCalls ?_ hCurrent hCommitted
  exact congrArg Cursor.unread (if_pos hAssigned)

section Commit

variable {t : OffsetToken}
variable {a : Awaited (Except Error Unit)}

/- An acknowledged batch is done and committed. -/
theorem Segmented.commit
    (hSegmented : j.Segmented pending o h rest)
    (hKey : t.key = p)
    (hRow : h.rowBefore = pending)
    (hLast : pending.getLast?.map (·.token) = some t) :
    j.Segmented [] (o.markCommitted t)
      (.commit t (.done (.ok ())) :: h) rest := by
  have hDone := doneBatches_commit (h := h) hKey rfl
  refine ⟨hSegmented.tiled.commit hKey hRow hLast, ?_, ?_⟩
  · have hCalls :
        lastDone p (.commit t (.done (.ok ())) :: h) =
          some t.offset := by
      rw [lastDone, doneCalls, commitCalls_commit hKey,
        List.filter_append]
      simp [CommitCall.isDone]
    rw [hCalls]
    simp [OffsetTracker.markCommitted, OffsetTracker.committed?,
      hKey]
  · intro f hMember
    apply hSegmented.current f
    rw [hDone, hRow] at hMember
    simpa using hMember

/- A batch that is not acknowledged is given up. -/
theorem Segmented.commit_of_not_done
    (hSegmented : j.Segmented pending o h rest)
    (hKey : t.key = p)
    (hRow : h.rowBefore = pending)
    (hLast : pending.getLast?.map (·.token) = some t)
    (hDone : a ≠ .done (.ok ())) :
    j.Segmented [] o (.commit t a :: h) (pending ++ rest) := by
  have hCalls := doneCalls_commit_of_not_done (h := h) hKey hDone
  refine
    ⟨hSegmented.tiled.commit_of_not_done hKey hRow hLast hDone,
      ?_, ?_⟩
  · rw [lastDone, hCalls]
    exact hSegmented.committed
  · rw [doneBatches, hCalls]
    exact hSegmented.giveUp.current

theorem Flowing.commit
    (hFlowing : j.Flowing pending o h)
    (hKey : t.key = p)
    (hRow : h.rowBefore = pending)
    (hLast : pending.getLast?.map (·.token) = some t) :
    j.Flowing [] (o.markCommitted t)
      (.commit t (.done (.ok ())) :: h) := by
  refine ⟨?_, ?_⟩
  · rw [cursorAt, unread_next_commit]
    exact hFlowing.toSegmented.commit hKey hRow hLast
  · rw [commitCalls_commit hKey]
    intro call hCall
    rcases List.mem_append.mp hCall with hOld | hNew
    · exact hFlowing.allDone call hOld
    · rw [List.mem_singleton.mp hNew]
      rfl

end Commit

/- A rewind to the first pending fragment gives all of them back. -/
theorem Flowing.rewind
    {first : Fragment}
    {more : List Fragment}
    (hFlowing : j.Flowing (first :: more) o h)
    (hOffsets : o.rewind p first.offset = .ok o') :
    j.Flowing [] o' (.rewind p first.offset (.ok ()) :: h) := by
  have hTiled := hFlowing.tiled
  have hUnread :
      (j.cursorAt
          (.rewind p first.offset (.ok ()) :: h)).unread =
        (first :: more) ++ (j.cursorAt h).unread := by
    rw [← hTiled.since_first]
    simp [cursorAt, next]
  rcases OffsetTracker.rewind_eq_ok hOffsets with
    ⟨last, hLast, rfl⟩
  have hBefore := Word.subInt_eq_ok_iff.mp hLast
  refine ⟨⟨?_, hFlowing.committed, ?_⟩, hFlowing.allDone⟩
  · rw [hUnread]
    exact hTiled.giveUp.of_commitCalls_eq rfl
  · intro f hMember
    rw [List.append_nil] at hMember
    have hLess := hTiled.lt hMember List.mem_cons_self
    refine ⟨last, ?_, ?_⟩
    · simp [OffsetTracker.current?]
    · rw [Int64.lt_iff_toInt_lt] at hLess
      rw [Int64.le_iff_toInt_le, hBefore]
      have hOne : (1 : Int64).toInt = 1 := rfl
      omega

end Journal

------------------------------------------------------------
-- Moves
------------------------------------------------------------

variable {w w' : Worker}
variable {answer : FlushEnd}
variable {m m₁ m' : Moment}
variable {r : Except Stop Unit}
variable {phase : Phase}

/-
  What holds of the segments in a phase of a run.  Once the
  engine has stopped, fragments may have been given up.
-/
def Phase.Segments
    (j : Journal p) :
    Phase → List Fragment → OffsetTracker → History → Prop
| .running, pending, o, h => j.Flowing pending o h
| .stopped _, pending, o, h =>
    ∃ rest, j.Segmented pending o h rest
| .flushing _, pending, o, h =>
    (∃ rest, j.Segmented pending o h rest) ∧ h.topRow = []
| .flushed _, pending, o, h =>
    ∃ rest, j.Segmented pending o h rest

@[simp] theorem Engine.offsets_recovered
    (e : Engine)
    (p : PartitionKey) :
    (e.recovered p).offsets = e.offsets := by
  simp only [recovered]
  split <;> rfl

/- However an outcome is settled, the segments stay exact. -/
theorem Settled.segments
    {elapsed : Span}
    (hSettled :
      Settled p elapsed ⟨m.engine.putWorker p w', h⟩ answer r m')
    (hHands : w.HandsOver w' h answer)
    (hKey : ∀ b, answer = .committed b → b.last.key = p)
    (hFlowing : j.Flowing w.pending m.engine.offsets h) :
    (Phase.after r).Segments j (m'.engine.pendingOf p)
      m'.engine.offsets m'.history := by
  have hPending : m'.engine.pendingOf p = w'.pending := by
    unfold Engine.pendingOf
    rw [hSettled.workers_eq]
    exact m.engine.pendingOf_putWorker p w'
  rw [hPending]
  have hGivenUp := hFlowing.toSegmented.giveUp
  cases hSettled with
  | nothing =>
      rw [hHands]
      exact hFlowing
  | acknowledged b =>
      rcases hHands with ⟨hEmpty, hRow, hLast⟩
      rw [hEmpty, Engine.offsets_recovered]
      exact hFlowing.commit (hKey b rfl) hRow hLast
  | unacknowledged b cause =>
      rcases hHands with ⟨hEmpty, hRow, hLast⟩
      rw [hEmpty]
      exact ⟨_, hFlowing.toSegmented.commit_of_not_done
        (hKey b rfl) hRow hLast nofun⟩
  | lost b =>
      rcases hHands with ⟨hEmpty, hRow, hLast⟩
      rw [hEmpty]
      exact ⟨_, hFlowing.toSegmented.commit_of_not_done
        (hKey b rfl) hRow hLast nofun⟩
  | halted =>
      rw [hHands.1]
      exact ⟨_, hGivenUp.of_eq rfl rfl rfl⟩
  | unsent =>
      rw [hHands.1]
      exact ⟨_, hGivenUp.of_eq rfl rfl rfl⟩
  | untracked =>
      rw [hHands.1]
      exact ⟨_, hGivenUp.of_eq rfl rfl rfl⟩
  | waited n backoff offset offsets a _ hOffset hOffsets =>
      rcases hHands with ⟨hEmpty, first, more, hBatch, hFirst⟩
      rw [Engine.redeliveryOf_putWorker, hFirst] at hOffset
      cases hOffset
      rw [hBatch] at hFlowing
      rw [hEmpty]
      have hNoise :
          j.Flowing (first :: more) m.engine.offsets
            (.noise n :: h) :=
        hFlowing.grows ((Grows.refl _ h).cons id)
      have hWaited :
          j.Flowing [] offsets
            (.sleep (.ofMillis backoff.toNat) a ::
              .rewind p first.offset (.ok ()) ::
                .noise n :: h) :=
        (hNoise.rewind hOffsets).grows ((Grows.refl _ _).cons id)
      cases a with
      | done => exact hWaited
      | dropped => exact ⟨_, hWaited.toSegmented⟩

theorem Worked.segments
    (hWorked : Worked p w m r m')
    (hWorker : w.Keyed p)
    (hFlowing :
      j.Flowing w.pending m.engine.offsets m.history) :
    (Phase.after r).Segments j (m'.engine.pendingOf p)
      m'.engine.offsets m'.history := by
  cases hWorked with
  | @settled answer _ _ _ _ elapsed hTicked hAnswer hSettled =>
      have hKey (b : CommittedBatch) :
          answer = .committed b → b.last.key = p := by
        rintro rfl
        exact hTicked.last_key hWorker
      exact hSettled.segments hTicked.handsOver hKey
        (hFlowing.grows hTicked.still)
  | cut hTicked =>
      have hGrown := hFlowing.grows hTicked.still
      have hEmpty := hTicked.handsOver
      simp only [Engine.pendingOf_putWorker]
      rw [hEmpty]
      exact ⟨_, hGrown.toSegmented.giveUp⟩

/- A readied worker has the segment of its partition. -/
theorem Readied.flowing
    (hReadied : Readied p m w m₁)
    (hFlowing :
      j.Flowing (m.engine.pendingOf p ++ pending)
        m.engine.offsets m.history) :
    j.Flowing (w.pending ++ pending) m₁.engine.offsets
      m₁.history := by
  cases hReadied with
  | kept w hFound =>
      rw [Engine.pendingOf_of_get? hFound] at hFlowing
      exact hFlowing
  | opened now hNone =>
      simp only [Engine.pendingOf, hNone] at hFlowing
      exact hFlowing.grows ((Grows.refl _ _).cons id)

/- A partition that is kept keeps its offsets. -/
theorem Engine.offsets_keepOnly
    {ps : List PartitionKey}
    (e : Engine)
    (hAssigned : p ∈ ps) :
    (e.keepOnly ps).offsets.current? p = e.offsets.current? p ∧
      (e.keepOnly ps).offsets.committed? p =
        e.offsets.committed? p := by
  simp [keepOnly, OffsetTracker.current?_foldl_remove,
    OffsetTracker.committed?_foldl_remove, hAssigned]

theorem Own.segments
    (hOwn : Own p m r m')
    (hFlowing :
      j.Flowing (m.engine.pendingOf p) m.engine.offsets
        m.history)
    (hOrder : j.InOrder m'.history)
    (hAssigned : ∀ e ∈ m'.history, e.Assigns p) :
    (Phase.after r).Segments j (m'.engine.pendingOf p)
      m'.engine.offsets m'.history := by
  cases hOwn with
  | delivered hKey hReadied hWorker hWorked =>
      have hDelivered :=
        hFlowing.deliver hKey
          (hOrder.of_suffix
            (hReadied.calls.trans hWorked.calls).suffix)
      exact hWorked.segments hWorker (hReadied.flowing hDelivered)
  | released ps =>
      have hKept : p ∈ ps :=
        hAssigned (.assigned (.ok ps)) List.mem_cons_self
      have hPending :
          (m.engine.keepOnly ps).pendingOf p =
            m.engine.pendingOf p := by
        simp [Engine.pendingOf, Engine.keepOnly, hKept]
      have hOffsets := m.engine.offsets_keepOnly hKept
      rw [hPending]
      exact hFlowing.assigned hKept hOffsets.1 hOffsets.2
  | ticked hFound hWorker hWorked =>
      rw [Engine.pendingOf_of_get? hFound] at hFlowing
      exact hWorked.segments hWorker hFlowing

/- What happens to other partitions changes no segment. -/
theorem Apart.flowing
    (hApart : Apart p m m')
    (hFlowing :
      j.Flowing (m.engine.pendingOf p) m.engine.offsets
        m.history) :
    j.Flowing (m'.engine.pendingOf p) m'.engine.offsets
      m'.history := by
  rw [hApart.pendingOf_eq]
  exact (hFlowing.grows hApart.still).of_eq rfl rfl
    hApart.current hApart.committed

theorem Apart.segmented
    (hApart : Apart p m m')
    (hSegmented :
      j.Segmented (m.engine.pendingOf p) m.engine.offsets
        m.history rest) :
    j.Segmented (m'.engine.pendingOf p) m'.engine.offsets
      m'.history rest := by
  rw [hApart.pendingOf_eq]
  exact (hSegmented.grows hApart.still).of_eq rfl
    hApart.current hApart.committed

/- The final flush of a partition goes on with its segment. -/
theorem FlushedOut.segmented
    (hOut : FlushedOut p m r m')
    (hEngine : m.engine.Keyed)
    (hTop : m.history.topRow = [])
    (hSegmented :
      j.Segmented (m.engine.pendingOf p) m.engine.offsets
        m.history rest) :
    ∃ rest',
      j.Segmented (m'.engine.pendingOf p) m'.engine.offsets
        m'.history rest' := by
  have hFlush
      {w w' : Worker}
      {answer : FlushEnd}
      {h' : History}
      (hWorker : m.engine.workers.get? p = some w)
      (hFlushed :
        w.Flushed .shutdown m.history answer w' h') :
      j.Segmented w.pending m.engine.offsets h' rest := by
    rw [Engine.pendingOf_of_get? hWorker] at hSegmented
    exact hSegmented.grows hFlushed.still
  have hPending (w' : Worker) :
      (m.engine.putWorker p w').pendingOf p = w'.pending :=
    m.engine.pendingOf_putWorker p w'
  cases hOut with
  | unstored hWorker hFlushed hAnswer =>
      have hHands := hFlushed.handsOver hTop
      have hGrown := hFlush hWorker hFlushed
      simp only [hPending]
      rcases hAnswer with rfl | rfl
      · rw [hHands]
        exact ⟨_, hGrown⟩
      · rw [hHands.1]
        exact ⟨_, hGrown.giveUp⟩
  | cut hWorker hFlushed =>
      have hEmpty := hFlushed.handsOver hTop
      simp only [hPending]
      rw [hEmpty]
      exact ⟨_, (hFlush hWorker hFlushed).giveUp⟩
  | @acknowledged w w' h' b hWorker hFlushed =>
      rcases hFlushed.handsOver hTop with ⟨hEmpty, hRow, hLast⟩
      have hKey := hFlushed.last_key (hEngine p w hWorker)
      have hPut :
          ((m.engine.putWorker p w').acknowledged b).pendingOf p =
            [] :=
        (hPending w').trans hEmpty
      refine ⟨rest, ?_⟩
      simp only [hPut]
      exact (hFlush hWorker hFlushed).commit hKey hRow hLast
  | @unacknowledged w w' h' b cause hWorker hFlushed =>
      rcases hFlushed.handsOver hTop with ⟨hEmpty, hRow, hLast⟩
      have hKey := hFlushed.last_key (hEngine p w hWorker)
      simp only [hPending]
      rw [hEmpty]
      exact ⟨_, (hFlush hWorker hFlushed).commit_of_not_done
        hKey hRow hLast nofun⟩
  | @lost w w' h' b hWorker hFlushed =>
      rcases hFlushed.handsOver hTop with ⟨hEmpty, hRow, hLast⟩
      have hKey := hFlushed.last_key (hEngine p w hWorker)
      simp only [hPending]
      rw [hEmpty]
      exact ⟨_, (hFlush hWorker hFlushed).commit_of_not_done
        hKey hRow hLast nofun⟩

/- A final flush that goes on leaves no row on top of the history. -/
theorem FlushMove.topRow_eq
    (hMove : FlushMove m (.ok ()) m') :
    m'.history.topRow = [] := by
  rcases hMove with ⟨q, hOut⟩
  cases hOut with
  | unstored hWorker hFlushed hAnswer =>
      rcases hAnswer with rfl | rfl
      · cases hFlushed
        rfl
      · cases hFlushed
        rfl
  | acknowledged => rfl
  | unacknowledged => rfl

theorem FlushMove.segmented
    (hMove : FlushMove m r m')
    (hEngine : m.engine.Keyed)
    (hTop : m.history.topRow = [])
    (hSegmented :
      ∃ rest,
        j.Segmented (m.engine.pendingOf p) m.engine.offsets
          m.history rest) :
    ∃ rest,
      j.Segmented (m'.engine.pendingOf p) m'.engine.offsets
        m'.history rest := by
  rcases hMove with ⟨q, hOut⟩
  rcases hSegmented with ⟨rest, hSegmented⟩
  by_cases hKey : q = p
  · subst hKey
    exact hOut.segmented hEngine hTop hSegmented
  · exact ⟨rest, (hOut.apart hEngine hKey).segmented hSegmented⟩

------------------------------------------------------------
-- Runs
------------------------------------------------------------

/- Every moment of a run has the segments of its phase. -/
theorem Reaches.segments
    {start : Moment}
    (hReaches : Reaches start phase m)
    (hKeyed : start.engine.Keyed)
    (hStart :
      j.Flowing (start.engine.pendingOf p) start.engine.offsets
        start.history)
    (hOrder : j.InOrder m.history)
    (hAssigned : ∀ e ∈ m.history, e.Assigns p) :
    phase.Segments j (m.engine.pendingOf p) m.engine.offsets
      m.history := by
  have hEngine
      {phase : Phase}
      {m : Moment}
      (hReaches : Reaches start phase m) :
      m.engine.Keyed :=
    hReaches.keyed hKeyed
  induction hReaches with
  | start => exact hStart
  | @move m m' r hReaches hMove ih =>
      have hBefore := hMove.extends
      have hFlowing := ih (hOrder.of_suffix hBefore)
        fun e he => hAssigned e (hBefore.subset he)
      rcases hMove.own_or_apart p (hEngine hReaches) with
        hOwn | hApart
      · exact hOwn.segments hFlowing hOrder hAssigned
      · have hKept := hApart.flowing hFlowing
        cases r with
        | ok => exact hKept
        | error => exact ⟨_, hKept.toSegmented⟩
  | close _ _ ih =>
      rcases ih hOrder.2 (List.forall_mem_cons.mp hAssigned).2
        with ⟨rest, hSegmented⟩
      exact ⟨⟨rest,
        hSegmented.grows ((Grows.refl _ _).cons id)⟩, rfl⟩
  | flush hReaches hMove ih =>
      have hBefore := hMove.extends
      rcases ih (hOrder.of_suffix hBefore)
          fun e he => hAssigned e (hBefore.subset he) with
        ⟨hSegmented, hTop⟩
      exact ⟨hMove.segmented (hEngine hReaches) hTop hSegmented,
        hMove.topRow_eq⟩
  | cut hReaches hMove ih =>
      have hBefore := hMove.extends
      rcases ih (hOrder.of_suffix hBefore)
          fun e he => hAssigned e (hBefore.subset he) with
        ⟨hSegmented, hTop⟩
      exact hMove.segmented (hEngine hReaches) hTop hSegmented
  | flushed _ ih => exact (ih hOrder hAssigned).1

/-
  The account of a partition at a moment: its acknowledged
  batches lie side by side from the start of the journal, the
  offsets of its commits increase, and the tracker has the
  last acknowledged one as committed, not ahead of what was
  consumed.
-/
structure Journal.Account
    (j : Journal p)
    (e : Engine)
    (h : History) : Prop where
  tiles :
    (doneBatches p h).flatten ++ j.afterDone (lastDone p h) =
      j.fragments
  named :
    ∀ call ∈ commitCalls p h,
      call.batch.getLast?.map (·.token) = some call.token
  increasing :
    (commitCalls p h).Pairwise fun c d =>
      c.token.offset < d.token.offset
  committed : e.offsets.committed? p = lastDone p h
  behind :
    ∀ offset, lastDone p h = some offset →
      ∃ last,
        e.offsets.current? p = some last ∧ offset ≤ last

theorem Journal.Segmented.account
    {e : Engine}
    (hSegmented : j.Segmented pending e.offsets h rest) :
    j.Account e h := by
  have hTiled := hSegmented.tiled
  refine ⟨?_, hTiled.named, hTiled.increasing,
    hSegmented.committed, ?_⟩
  · rw [← hTiled.open_eq]
    exact hTiled.split
  · intro offset hLast
    rw [hTiled.lastDone_eq, Option.map_eq_some_iff] at hLast
    rcases hLast with ⟨f, hLast, rfl⟩
    exact hSegmented.current f
      (List.mem_append_left _ (List.mem_of_getLast? hLast))

/- So it is at the end of a run, however it concludes. -/
theorem Concludes.account
    {start : Moment}
    {ending : Engine.RunEnd}
    (hConcludes : Concludes start ending m)
    (hKeyed : start.engine.Keyed)
    (hStart :
      j.Flowing (start.engine.pendingOf p) start.engine.offsets
        start.history)
    (hOrder : j.InOrder m.history)
    (hAssigned : ∀ e ∈ m.history, e.Assigns p) :
    j.Account m.engine m.history := by
  cases hConcludes with
  | unfinished hReaches =>
      exact (hReaches.segments hKeyed hStart hOrder
        hAssigned).toSegmented.account
  | faulted hReaches =>
      rcases hReaches.segments hKeyed hStart hOrder hAssigned with
        ⟨rest, hSegmented⟩
      exact hSegmented.account
  | closed metrics hReaches =>
      rcases hReaches.segments hKeyed hStart hOrder hAssigned with
        ⟨rest, hSegmented⟩
      exact ⟨hSegmented.account.tiles, hSegmented.account.named,
        hSegmented.account.increasing,
        hSegmented.account.committed,
        hSegmented.account.behind⟩
  | overflowed metrics fault hReaches =>
      rcases hReaches.segments hKeyed hStart hOrder hAssigned with
        ⟨rest, hSegmented⟩
      exact ⟨hSegmented.account.tiles, hSegmented.account.named,
        hSegmented.account.increasing,
        hSegmented.account.committed,
        hSegmented.account.behind⟩

/-
  Over a source that delivers in order, a buffer is at every
  poll the segment of the journal after the last acknowledged
  offset and before what is still to come, and the account of
  its partition holds throughout.
-/
theorem segments_of_run
    {σ : Type}
    (j : Journal p)
    (world : World σ)
    (settings : Settings)
    (steps : Nat)
    (s : σ)
    (run : Engine.Run (σ × History))
    (hRun :
      run =
        Engine.run world.recorded steps (.fresh settings) (s, []))
    (hOrder : j.InOrder run.last.world.2)
    (hAssigned : ∀ e ∈ run.last.world.2, e.Assigns p) :
    (∀ t ∈ run.atPolls,
        t.engine.pendingOf p ++ (j.cursorAt t.world.2).unread =
            j.afterDone (lastDone p t.world.2) ∧
          j.Account t.engine t.world.2) ∧
      j.Account run.last.engine run.last.world.2 := by
  subst hRun
  have hKeyed : (Engine.fresh settings).started.Keyed := nofun
  rcases run_reaches world steps (.fresh settings) s [] with
    ⟨hPolls, hConcludes⟩
  refine ⟨?_, ?_⟩
  · intro t hPoll
    have hSuffix :=
      atPolls_extends world steps
        ⟨(Engine.fresh settings).started, s, []⟩ t hPoll
    have hFlowing :=
      (hPolls t hPoll).segments hKeyed j.flowing_nil
        (hOrder.of_suffix hSuffix)
        fun e he => hAssigned e (hSuffix.subset he)
    have hSegmented := hFlowing.toSegmented
    exact ⟨hSegmented.tiled.open_eq, hSegmented.account⟩
  · exact hConcludes.account hKeyed j.flowing_nil hOrder hAssigned

/- A run in which a batch fails, is redelivered and is acknowledged. -/
@[irreducible] def redeliveredRun : Engine.Run (Script × History) :=
  Engine.run Script.world.recorded 6 (.fresh Script.settings)
    (Script.redelivered, [])

theorem inOrder_redeliveredRun :
    Script.journal.InOrder redeliveredRun.last.world.2 := by
  decide +kernel

theorem assigns_redeliveredRun :
    ∀ e ∈ redeliveredRun.last.world.2,
      e.Assigns Script.partition := by
  decide +kernel

theorem segments_of_redeliveredRun :
    redeliveredRun.atPolls.length = 5 ∧
      lastDone Script.partition redeliveredRun.last.world.2 =
        some 4 ∧
      (∀ t ∈ redeliveredRun.atPolls,
        t.engine.pendingOf Script.partition ++
              (Script.journal.cursorAt t.world.2).unread =
            Script.journal.afterDone
              (lastDone Script.partition t.world.2) ∧
          Script.journal.Account t.engine t.world.2) ∧
      Script.journal.Account redeliveredRun.last.engine
        redeliveredRun.last.world.2 := by
  refine ⟨?_, ?_, ?_⟩
  · decide +kernel
  · decide +kernel
  · exact segments_of_run Script.journal Script.world
      Script.settings 6 Script.redelivered redeliveredRun
      (by rw [redeliveredRun]) inOrder_redeliveredRun
      assigns_redeliveredRun

end FragmentSink
