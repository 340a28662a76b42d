import FragmentSink.Proofs.Engine.Reach

/-
  Partitions do not touch each other.

  Every worker holds fragments of its own partition only, so
  the moves of one partition make no event about another and
  leave what the engine keeps for it as it was.

  Main declarations:
    * `Engine.Keyed`
    * `Reaches.keyed`
    * `Apart`
    * `Move.own_or_apart`
-/

namespace FragmentSink

variable {p q : PartitionKey}
variable {w w' : Worker}
variable {h h' : History}
variable {m m₁ m' : Moment}
variable {r : Except Stop Unit}
variable {answer : FlushEnd}

------------------------------------------------------------
-- Workers of One Partition
------------------------------------------------------------

/- A worker of a partition that holds nothing of another. -/
structure Worker.Keyed (p : PartitionKey) (w : Worker) : Prop where
  partition : w.partition = p
  pending : ∀ f ∈ w.pending, f.partitionKey = p

namespace Worker

theorem Keyed.append
    {f : Fragment}
    (hKeyed : w.Keyed p)
    (hRouted : f.partitionKey = w.partition) :
    (w.append f).Keyed p := by
  refine ⟨hKeyed.partition, ?_⟩
  intro g hMember
  rcases List.mem_append.mp hMember with hOld | hNew
  · exact hKeyed.pending g hOld
  · rw [List.mem_singleton.mp hNew]
    exact hRouted.trans hKeyed.partition

theorem Flushed.keyed
    {reason : FlushReason}
    (hFlushed : w.Flushed reason h answer w' h')
    (hKeyed : w.Keyed p) :
    w'.Keyed p := by
  cases hFlushed with
  | empty => exact ⟨hKeyed.partition, hKeyed.pending⟩
  | durable => exact ⟨hKeyed.partition, nofun⟩
  | failed => exact ⟨hKeyed.partition, nofun⟩
  | dropped => exact ⟨hKeyed.partition, nofun⟩

theorem Ticked.keyed
    (hTicked : w.Ticked h answer w' h')
    (hKeyed : w.Keyed p) :
    w'.Keyed p := by
  cases hTicked with
  | idle => exact hKeyed
  | ready now reason hReason hFlushed =>
      exact hFlushed.keyed hKeyed

/- A committed batch ends with a fragment of the worker's partition. -/
theorem Flushed.last_key
    {reason : FlushReason}
    {b : CommittedBatch}
    (hFlushed : w.Flushed reason h (.committed b) w' h')
    (hKeyed : w.Keyed p) :
    b.last.key = p := by
  cases hFlushed with
  | durable first rest duration now hPending =>
      apply hKeyed.pending
      rw [hPending]
      exact List.getLast_mem _

theorem Ticked.last_key
    {b : CommittedBatch}
    (hTicked : w.Ticked h (.committed b) w' h')
    (hKeyed : w.Keyed p) :
    b.last.key = p := by
  cases hTicked with
  | ready now reason hReason hFlushed =>
      exact hFlushed.last_key hKeyed

end Worker

------------------------------------------------------------
-- Engines
------------------------------------------------------------

/- Every worker of an engine is kept under its own partition. -/
def Engine.Keyed (e : Engine) : Prop :=
  ∀ p w, e.workers.get? p = some w → w.Keyed p

theorem Engine.Keyed.putWorker
    {e : Engine}
    (hEngine : e.Keyed)
    (hWorker : w.Keyed p) :
    (e.putWorker p w).Keyed := by
  intro q u hFound
  rw [Engine.putWorker, Table.get?_insert] at hFound
  split at hFound
  case isTrue hKey =>
    cases hFound
    exact hKey ▸ hWorker
  case isFalse => exact hEngine q u hFound

/- Settling an outcome leaves the workers alone. -/
theorem Settled.workers_eq
    {elapsed : Span}
    (hSettled : Settled p elapsed m answer r m') :
    m'.engine.workers = m.engine.workers := by
  cases hSettled with
  | acknowledged b =>
      simp only [Engine.recovered]
      split <;> rfl
  | _ => rfl

theorem Worked.keyed
    (hWorked : Worked p w m r m')
    (hEngine : m.engine.Keyed)
    (hWorker : w.Keyed p) :
    m'.engine.Keyed := by
  cases hWorked with
  | settled elapsed hTicked hAnswer hSettled =>
      have hPut := hEngine.putWorker (hTicked.keyed hWorker)
      unfold Engine.Keyed
      rw [hSettled.workers_eq]
      exact hPut
  | cut hTicked => exact hEngine.putWorker (hTicked.keyed hWorker)

theorem Readied.keyed
    (hReadied : Readied p m w m₁)
    (hEngine : m.engine.Keyed) :
    w.Keyed p ∧ m₁.engine.Keyed := by
  cases hReadied with
  | kept w hWorker => exact ⟨hEngine p w hWorker, hEngine⟩
  | opened now hNone =>
      have hOpen : (m.engine.openWorker p now).Keyed p :=
        ⟨rfl, nofun⟩
      exact ⟨hOpen, hEngine.putWorker hOpen⟩

theorem Move.keyed
    (hMove : Move m r m')
    (hEngine : m.engine.Keyed) :
    m'.engine.Keyed := by
  cases hMove with
  | delivered hReadied hRouted hWorked =>
      rcases hReadied.keyed hEngine with ⟨hWorker, hReady⟩
      exact hWorked.keyed hReady (hWorker.append hRouted)
  | misrouted hReadied => exact (hReadied.keyed hEngine).2
  | released ps =>
      intro q u hFound
      simp only [Engine.keepOnly, Table.get?_filterKeys] at hFound
      split at hFound
      case isTrue => exact hEngine q u hFound
      case isFalse => cases hFound
  | ticked hWorker hWorked =>
      exact hWorked.keyed hEngine (hEngine _ _ hWorker)
  | _ => exact hEngine

theorem FlushMove.keyed
    (hMove : FlushMove m r m')
    (hEngine : m.engine.Keyed) :
    m'.engine.Keyed := by
  have hPut
      {p : PartitionKey}
      {w w' : Worker}
      {answer : FlushEnd}
      {h' : History}
      (hWorker : m.engine.workers.get? p = some w)
      (hFlushed :
        w.Flushed .shutdown m.history answer w' h') :
      (m.engine.putWorker p w').Keyed :=
    hEngine.putWorker (hFlushed.keyed (hEngine p w hWorker))
  rcases hMove with ⟨p, hOut⟩
  cases hOut with
  | unstored hWorker hFlushed => exact hPut hWorker hFlushed
  | cut hWorker hFlushed => exact hPut hWorker hFlushed
  | acknowledged hWorker hFlushed => exact hPut hWorker hFlushed
  | unacknowledged _ hWorker hFlushed => exact hPut hWorker hFlushed
  | lost hWorker hFlushed => exact hPut hWorker hFlushed

theorem Reaches.keyed
    {start : Moment}
    {phase : Phase}
    (hReaches : Reaches start phase m)
    (hStart : start.engine.Keyed) :
    m.engine.Keyed := by
  induction hReaches with
  | start => exact hStart
  | move _ hMove ih => exact hMove.keyed ih
  | close _ _ ih => exact ih
  | flush _ hMove ih => exact hMove.keyed ih
  | cut _ hMove ih => exact hMove.keyed ih
  | flushed _ ih => exact ih

------------------------------------------------------------
-- Pending Fragments
------------------------------------------------------------

/- The fragments that an engine has pending for a partition. -/
def Engine.pendingOf (e : Engine) (p : PartitionKey) :
    List Fragment :=
  ((e.workers.get? p).map (·.pending)).getD []

theorem Engine.pendingOf_of_get?
    {e : Engine}
    (hFound : e.workers.get? p = some w) :
    e.pendingOf p = w.pending := by
  rw [pendingOf, hFound]
  rfl

@[simp] theorem Engine.pendingOf_putWorker
    (e : Engine)
    (p : PartitionKey)
    (w : Worker) :
    (e.putWorker p w).pendingOf p = w.pending :=
  pendingOf_of_get? (by simp [putWorker])

------------------------------------------------------------
-- Events Beside a Partition
------------------------------------------------------------

/- A history that goes on without an event about a partition. -/
abbrev Beside (q : PartitionKey) : History → History → Prop :=
  Grows fun e => ¬ e.About q

/- Uploads of one partition are beside every other. -/
theorem not_about_upload
    {fs : List Fragment}
    (hKeyed : ∀ f ∈ fs, f.partitionKey = p)
    (hOther : p ≠ q) :
    ∀ f ∈ fs, ∀ ending, ¬ Event.About q (.upload f ending) := by
  intro f hMember ending hAbout
  exact hOther ((hKeyed f hMember).symm.trans hAbout)

theorem Worker.Ticked.beside
    (hTicked : w.Ticked h answer w' h')
    (hWorker : w.Keyed p)
    (hOther : p ≠ q) :
    Beside q h h' :=
  hTicked.grows (fun _ => id)
    (not_about_upload hWorker.pending hOther)

------------------------------------------------------------
-- Moves Apart from a Partition
------------------------------------------------------------

/-
  From one moment to the next, nothing happens to a partition:
  what the engine keeps for it stays, and no event is about it.
-/
structure Apart
    (q : PartitionKey)
    (m m' : Moment) : Prop where
  worker :
    m'.engine.workers.get? q = m.engine.workers.get? q
  failures :
    m'.engine.failures.get? q = m.engine.failures.get? q
  current :
    m'.engine.offsets.current? q = m.engine.offsets.current? q
  committed :
    m'.engine.offsets.committed? q =
      m.engine.offsets.committed? q
  events : Beside q m.history m'.history

theorem Apart.trans
    (hFirst : Apart q m m₁)
    (hThen : Apart q m₁ m') :
    Apart q m m' :=
  ⟨hThen.worker.trans hFirst.worker,
    hThen.failures.trans hFirst.failures,
    hThen.current.trans hFirst.current,
    hThen.committed.trans hFirst.committed,
    hFirst.events.trans hThen.events⟩

theorem Apart.putWorker
    (hBeside : Beside q m.history h')
    (hOther : p ≠ q) :
    Apart q m ⟨m.engine.putWorker p w, h'⟩ := by
  refine ⟨?_, rfl, rfl, rfl, hBeside⟩
  simp [Engine.putWorker, hOther]

theorem Apart.pendingOf_eq
    (hApart : Apart p m m') :
    m'.engine.pendingOf p = m.engine.pendingOf p := by
  rw [Engine.pendingOf, hApart.worker]
  rfl

/- What happens to other partitions does not steer this one. -/
theorem Apart.still
    (hApart : Apart p m m') :
    Grows (fun e => ¬ e.Steers p) m.history m'.history := by
  rcases hApart.events with ⟨es, hEvents, hBeside⟩
  refine ⟨es, hEvents, ?_⟩
  intro e hMember hSteers
  exact hBeside e hMember (.of_steers hSteers)

/- Forgetting partitions forgets their offsets, and no others. -/
theorem OffsetTracker.current?_foldl_remove
    (ps : List PartitionKey)
    (o : OffsetTracker) :
    (ps.foldl remove o).current? p =
      if p ∈ ps then none else o.current? p := by
  induction ps generalizing o with
  | nil => rfl
  | cons q ps ih =>
      rw [List.foldl_cons, ih]
      by_cases hKey : p = q <;> simp [current?, remove, hKey]

theorem OffsetTracker.committed?_foldl_remove
    (ps : List PartitionKey)
    (o : OffsetTracker) :
    (ps.foldl remove o).committed? p =
      if p ∈ ps then none else o.committed? p := by
  induction ps generalizing o with
  | nil => rfl
  | cons q ps ih =>
      rw [List.foldl_cons, ih]
      by_cases hKey : p = q <;> simp [committed?, remove, hKey]

/- A rewind that is tracked sets the current offset alone. -/
theorem OffsetTracker.rewind_eq_ok
    {o o' : OffsetTracker}
    {offset : Int64}
    (hRewind : o.rewind p offset = .ok o') :
    ∃ last, Word.subInt offset 1 = .ok last ∧
      o' = { o with current := o.current.insert p last } := by
  unfold rewind at hRewind
  cases hSub : Word.subInt offset 1 with
  | error fault => simp [hSub, Except.map] at hRewind
  | ok last =>
      rw [hSub] at hRewind
      cases hRewind
      exact ⟨last, rfl, rfl⟩

/- Nothing but an offset without a predecessor defies a rewind. -/
theorem OffsetTracker.subInt_of_rewind
    {o : OffsetTracker}
    {offset : Int64}
    {fault : Fault}
    (hRewind : o.rewind p offset = .error fault) :
    Word.subInt offset 1 = .error fault := by
  unfold rewind at hRewind
  cases hSub : Word.subInt offset 1 with
  | error found =>
      rw [hSub] at hRewind
      cases hRewind
      rfl
  | ok last => simp [hSub, Except.map] at hRewind

theorem Settled.apart
    {elapsed : Span}
    (hSettled : Settled p elapsed m answer r m')
    (hLast : ∀ b, answer = .committed b → b.last.key = p)
    (hOther : p ≠ q) :
    Apart q m m' := by
  have hHere : Beside q m.history m.history := .refl _ _
  have hCommit
      {b : CommittedBatch}
      (hKey : b.last.key = p)
      (a : Awaited (Except Error Unit)) :
      ¬ Event.About q (.commit b.last a) :=
    fun hAbout => hOther (hKey.symm.trans hAbout)
  have hRewind
      (offset : Int64)
      (a : Except Error Unit) :
      ¬ Event.About q (.rewind p offset a) :=
    hOther
  have hFailed :
      (m.engine.noteFailure p elapsed).failures.get? q =
        m.engine.failures.get? q := by
    simp [Engine.noteFailure, hOther]
  cases hSettled with
  | nothing => exact ⟨rfl, rfl, rfl, rfl, hHere⟩
  | acknowledged b =>
      have hKey := hLast b rfl
      refine ⟨?_, ?_, ?_, ?_, hHere.cons (hCommit hKey _)⟩
      all_goals
        simp only [Engine.recovered]
        split
      all_goals
        simp [Engine.acknowledged, Engine.mark,
          OffsetTracker.current?, OffsetTracker.committed?,
          OffsetTracker.markCommitted, hKey, hOther,
          hOther.symm]
  | unacknowledged b =>
      exact ⟨rfl, rfl, rfl, rfl,
        hHere.cons (hCommit (hLast b rfl) _)⟩
  | lost b =>
      exact ⟨rfl, rfl, rfl, rfl,
        hHere.cons (hCommit (hLast b rfl) _)⟩
  | halted => exact ⟨rfl, hFailed, rfl, rfl, hHere.cons id⟩
  | unsent =>
      exact ⟨rfl, hFailed, rfl, rfl,
        (hHere.cons id).cons (hRewind _ _)⟩
  | untracked =>
      exact ⟨rfl, hFailed, rfl, rfl,
        (hHere.cons id).cons (hRewind _ _)⟩
  | waited n backoff offset offsets a hAction hOffset hOffsets =>
      rcases OffsetTracker.rewind_eq_ok hOffsets with
        ⟨last, -, rfl⟩
      refine ⟨rfl, hFailed, ?_, rfl,
        ((hHere.cons id).cons (hRewind _ _)).cons id⟩
      simp [Engine.sentBack, OffsetTracker.current?, hOther]

theorem Worked.apart
    (hWorked : Worked p w m r m')
    (hWorker : w.Keyed p)
    (hOther : p ≠ q) :
    Apart q m m' := by
  cases hWorked with
  | @settled answer _ _ _ _ elapsed hTicked hAnswer hSettled =>
      have hLast (b : CommittedBatch) :
          answer = .committed b → b.last.key = p := by
        rintro rfl
        exact hTicked.last_key hWorker
      exact (Apart.putWorker (hTicked.beside hWorker hOther)
        hOther).trans (hSettled.apart hLast hOther)
  | cut hTicked =>
      exact .putWorker (hTicked.beside hWorker hOther) hOther

theorem Readied.apart
    (hReadied : Readied p m w m₁)
    (hOther : p ≠ q) :
    Apart q m m₁ := by
  cases hReadied with
  | kept => exact ⟨rfl, rfl, rfl, rfl, .refl _ _⟩
  | opened =>
      exact .putWorker ((Grows.refl _ _).cons id) hOther

/- The moves that do something to a partition. -/
inductive Own (q : PartitionKey) (m : Moment) :
    Except Stop Unit → Moment → Prop
| delivered
    {f : Fragment}
    {w : Worker}
    {m₁ m' : Moment}
    {r : Except Stop Unit}
    (hKey : f.partitionKey = q)
    (hReadied :
      Readied q
        ⟨m.engine.taking f,
          .poll (.done (.fragment f)) :: m.history⟩ w m₁)
    (hWorker : (w.append f).Keyed q)
    (hWorked : Worked q (w.append f) m₁ r m') :
    Own q m r m'
| released (ps : List PartitionKey) :
    Own q m (.ok ())
      ⟨m.engine.keepOnly ps, .assigned (.ok ps) :: m.history⟩
| ticked
    {w : Worker}
    {m' : Moment}
    {r : Except Stop Unit}
    (hFound : m.engine.workers.get? q = some w)
    (hWorker : w.Keyed q)
    (hWorked : Worked q w m r m') :
    Own q m r m'

/- A delivered fragment does nothing to other partitions. -/
theorem apart_taking
    {f : Fragment}
    (hOther : f.partitionKey ≠ q) :
    Apart q m
      ⟨m.engine.taking f,
        .poll (.done (.fragment f)) :: m.history⟩ := by
  have hToken : f.token.key ≠ q := hOther
  refine ⟨rfl, rfl, ?_, rfl,
    (Grows.refl _ _).cons hOther⟩
  simp [Engine.taking, OffsetTracker.updateCurrent,
    OffsetTracker.current?, hToken]

/- Every move is one of a partition's own, or apart from it. -/
theorem Move.own_or_apart
    (q : PartitionKey)
    (hMove : Move m r m')
    (hEngine : m.engine.Keyed) :
    Own q m r m' ∨ Apart q m m' := by
  have hHere : Beside q m.history m.history := .refl _ _
  cases hMove with
  | @delivered f w m₁ _ _ hReadied hRouted hWorked =>
      have hKeyed := (hReadied.keyed hEngine).1.append hRouted
      by_cases hKey : f.partitionKey = q
      · subst hKey
        exact .inl (.delivered rfl hReadied hKeyed hWorked)
      · exact .inr (((apart_taking hKey).trans
          (hReadied.apart hKey)).trans
            (hWorked.apart hKeyed hKey))
  | misrouted hReadied hMisrouted =>
      have hKeyed := (hReadied.keyed hEngine).1
      exact absurd hKeyed.partition.symm hMisrouted
  | released ps => exact .inl (.released ps)
  | @ticked p w _ _ hFound hWorked =>
      have hKeyed := hEngine p w hFound
      by_cases hKey : p = q
      · subst hKey
        exact .inl (.ticked hFound hKeyed hWorked)
      · exact .inr (hWorked.apart hKeyed hKey)
  | troubled =>
      exact .inr ⟨rfl, rfl, rfl, rfl, (hHere.cons id).cons id⟩
  | gauged => exact .inr ⟨rfl, rfl, rfl, rfl, hHere⟩
  | overflowed => exact .inr ⟨rfl, rfl, rfl, rfl, hHere⟩
  | unpolled => exact .inr ⟨rfl, rfl, rfl, rfl, hHere.cons id⟩
  | quiet => exact .inr ⟨rfl, rfl, rfl, rfl, hHere.cons id⟩
  | broken => exact .inr ⟨rfl, rfl, rfl, rfl, hHere.cons id⟩
  | unassigned => exact .inr ⟨rfl, rfl, rfl, rfl, hHere.cons id⟩

/- The final flush of one partition does nothing to the others. -/
theorem FlushedOut.apart
    (hOut : FlushedOut p m r m')
    (hEngine : m.engine.Keyed)
    (hOther : p ≠ q) :
    Apart q m m' := by
  have hPut
      {w w' : Worker}
      {answer : FlushEnd}
      {h' : History}
      (hWorker : m.engine.workers.get? p = some w)
      (hFlushed :
        w.Flushed .shutdown m.history answer w' h') :
      Apart q m ⟨m.engine.putWorker p w', h'⟩ :=
    .putWorker
      (hFlushed.grows (fun _ => id)
        (not_about_upload (hEngine p w hWorker).pending hOther))
      hOther
  have hCommit
      {w w' : Worker}
      {h' : History}
      {b : CommittedBatch}
      (hWorker : m.engine.workers.get? p = some w)
      (hFlushed :
        w.Flushed .shutdown m.history (.committed b) w' h') :
      b.last.key ≠ q :=
    fun hKey => hOther
      ((hFlushed.last_key (hEngine p w hWorker)).symm.trans hKey)
  cases hOut with
  | unstored hWorker hFlushed => exact hPut hWorker hFlushed
  | cut hWorker hFlushed => exact hPut hWorker hFlushed
  | acknowledged hWorker hFlushed =>
      have hApart := hPut hWorker hFlushed
      have hKey := hCommit hWorker hFlushed
      refine ⟨hApart.worker, rfl, rfl, ?_,
        hApart.events.cons hKey⟩
      simp [Engine.acknowledged, Engine.putWorker,
        OffsetTracker.markCommitted, OffsetTracker.committed?,
        hKey]
  | unacknowledged cause hWorker hFlushed =>
      have hApart := hPut hWorker hFlushed
      exact ⟨hApart.worker, rfl, rfl, rfl,
        hApart.events.cons (hCommit hWorker hFlushed)⟩
  | lost hWorker hFlushed =>
      have hApart := hPut hWorker hFlushed
      exact ⟨hApart.worker, rfl, rfl, rfl,
        hApart.events.cons (hCommit hWorker hFlushed)⟩

end FragmentSink
