import FragmentSink.Proofs.Coverage
import FragmentSink.Proofs.Engine.Apart
import FragmentSink.Proofs.Script

/-
  At-least-once delivery.

  Whenever an engine commits an offset of a partition, every
  fragment of the partition up to that offset has been stored.
  This holds for every source that keeps to its journal, and
  through any number of engines that follow each other.

  Main declarations:
    * `Journal.Leaves`
    * `Sound`
    * `Reaches.sound`
    * `Lived`
    * `covers_of_lived`
-/

namespace FragmentSink

variable {p : PartitionKey}
variable {j : Journal p}
variable {h h' : History}
variable {pending : List Fragment}
variable {w w' : Worker}
variable {answer : FlushEnd}
variable {reason : FlushReason}

------------------------------------------------------------
-- Flushes
------------------------------------------------------------

namespace Journal

/-
  What a flush leaves of the promises.  A batch that failed is
  no longer pending, but it is known what it began with.
-/
def Leaves (j : Journal p) : FlushEnd → Worker → History → Prop
| .nothing, w, h => j.Delivering w.pending h
| .committed b, w, h =>
    w.pending = [] ∧ j.Delivering [] h ∧ j.Covers b.last h
| .failed, w, h =>
    w.pending = [] ∧ j.CommitsCovered h ∧
      ∃ offset, w.redelivery = some offset ∧
        ∀ f ∈ j.fragments, f.offset < offset →
          .upload f .stored ∈ h
| .dropped, w, h => j.Safe w.pending h

end Journal

/- A batch that was committed is stored. -/
theorem stored_of_mem_row
    {now : Timestamp}
    {batch : List Fragment}
    {f : Fragment}
    (hMember : f ∈ batch) :
    .upload f .stored ∈ .clock now :: (storedRow batch ++ h) :=
  List.mem_cons_of_mem _
    (List.mem_append_left _ (mem_storedRow hMember))

theorem Worker.Flushed.leaves
    (hFlushed : w.Flushed reason h answer w' h')
    (hDelivering : j.Delivering w.pending h) :
    j.Leaves answer w' h' := by
  have hGrown := hDelivering.grows hFlushed.still
  cases hFlushed with
  | empty => exact hGrown
  | durable first rest duration now hPending =>
      rw [hPending] at hGrown
      refine ⟨rfl, hGrown.of_stored fun f => stored_of_mem_row, ?_⟩
      exact hGrown.toSafe.covers
        (List.getLast_mem (List.cons_ne_nil first rest))
        fun f => stored_of_mem_row
  | failed first rest uploads now hPending =>
      refine ⟨rfl, hGrown.covered, first.offset, rfl, ?_⟩
      exact hGrown.before first (by rw [hPending]; rfl)
  | dropped => exact .of_covered hGrown.covered

theorem Worker.Ticked.leaves
    (hTicked : w.Ticked h answer w' h')
    (hDelivering : j.Delivering w.pending h) :
    j.Leaves answer w' h' := by
  cases hTicked with
  | idle now => exact hDelivering.cons id
  | ready now _ _ hFlushed =>
      exact hFlushed.leaves (hDelivering.cons id)

/- The final flush keeps the promises of an engine that has stopped. -/
theorem Worker.Flushed.safe
    (hFlushed : w.Flushed reason h answer w' h')
    (hSafe : j.Safe w.pending h) :
    j.Safe w'.pending h' ∧
      ∀ b, answer = .committed b → j.Covers b.last h' := by
  have hGrown := hSafe.grows hFlushed.still
  cases hFlushed with
  | empty => exact ⟨hGrown, nofun⟩
  | durable first rest duration now hPending =>
      rw [hPending] at hGrown
      refine ⟨.of_covered hGrown.covered, ?_⟩
      rintro b ⟨⟩
      exact hGrown.covers
        (List.getLast_mem (List.cons_ne_nil first rest))
        fun f => stored_of_mem_row
  | failed => exact ⟨.of_covered hGrown.covered, nofun⟩
  | dropped => exact ⟨.of_covered hGrown.covered, nofun⟩

------------------------------------------------------------
-- Moves
------------------------------------------------------------

variable {m m₁ m' : Moment}
variable {r : Except Stop Unit}

/- What is promised in a phase of a run. -/
def Phase.Keeps
    (j : Journal p) :
    Phase → List Fragment → History → Prop
| .running, pending, h => j.Delivering pending h
| .stopped _, pending, h => j.Safe pending h
| .flushing _, pending, h => j.Safe pending h
| .flushed _, pending, h => j.Safe pending h

/- However an outcome is settled, what a flush left is kept. -/
theorem Settled.keeps
    {elapsed : Span}
    (hSettled :
      Settled p elapsed ⟨m.engine.putWorker p w, h⟩ answer r m')
    (hAnswer : answer ≠ .dropped)
    (hLeaves : j.Leaves answer w h) :
    (Phase.after r).Keeps j (m'.engine.pendingOf p) m'.history := by
  have hPending : m'.engine.pendingOf p = w.pending := by
    unfold Engine.pendingOf
    rw [hSettled.workers_eq]
    exact m.engine.pendingOf_putWorker p w
  rw [hPending]
  cases hSettled with
  | nothing => exact hLeaves
  | acknowledged b =>
      rcases hLeaves with ⟨hEmpty, hDelivering, hCovers⟩
      rw [hEmpty]
      exact hDelivering.commit hCovers _
  | unacknowledged b cause =>
      rcases hLeaves with ⟨hEmpty, hDelivering, hCovers⟩
      rw [hEmpty]
      exact .of_covered (hDelivering.covered.commit hCovers _)
  | lost b =>
      rcases hLeaves with ⟨hEmpty, hDelivering, hCovers⟩
      rw [hEmpty]
      exact .of_covered (hDelivering.covered.commit hCovers _)
  | halted =>
      rcases hLeaves with ⟨hEmpty, hCovered, -⟩
      rw [hEmpty]
      exact .of_covered hCovered
  | unsent =>
      rcases hLeaves with ⟨hEmpty, hCovered, -⟩
      rw [hEmpty]
      exact .of_covered hCovered
  | untracked =>
      rcases hLeaves with ⟨hEmpty, hCovered, -⟩
      rw [hEmpty]
      exact .of_covered hCovered
  | waited n backoff offset offsets a _ hOffset =>
      rcases hLeaves with
        ⟨hEmpty, hCovered, first, hFirst, hStored⟩
      rw [Engine.redeliveryOf_putWorker, hFirst] at hOffset
      cases hOffset
      rw [hEmpty]
      have hBack :
          j.Delivering []
            (.rewind p offset (.ok ()) :: .noise n :: h) :=
        .of_rewind hCovered fun f hFragment hOffset =>
          List.mem_cons_of_mem _ (hStored f hFragment hOffset)
      have hWaited := hBack.cons
        (e := .sleep (.ofMillis backoff.toNat) a) id
      cases a with
      | done => exact hWaited
      | dropped => exact hWaited.toSafe

theorem Worked.keeps
    (hWorked : Worked p w m r m')
    (hDelivering : j.Delivering w.pending m.history) :
    (Phase.after r).Keeps j (m'.engine.pendingOf p)
      m'.history := by
  cases hWorked with
  | settled elapsed hTicked hAnswer hSettled =>
      exact hSettled.keeps hAnswer (hTicked.leaves hDelivering)
  | cut hTicked =>
      simp only [Engine.pendingOf_putWorker]
      exact hTicked.leaves hDelivering

/- A readied worker has what was pending for its partition. -/
theorem Readied.delivering
    (hReadied : Readied p m w m₁)
    (hDelivering :
      j.Delivering (m.engine.pendingOf p ++ pending) m.history) :
    j.Delivering (w.pending ++ pending) m₁.history := by
  cases hReadied with
  | kept w hFound =>
      rw [Engine.pendingOf_of_get? hFound] at hDelivering
      exact hDelivering
  | opened now hNone =>
      simp only [Engine.pendingOf, hNone] at hDelivering
      exact hDelivering.cons id

/-
  A move of a partition keeps what is promised for it.  Only a
  delivery asks something of the source: that it could deliver
  the fragment.
-/
theorem Own.keeps
    (hOwn : Own p m r m')
    (hKeeps :
      j.Delivering (m.engine.pendingOf p) m.history)
    (hSource :
      ∀ e, e :: m.history <:+ m'.history →
        ∃ c, j.Follows (e :: m.history) c) :
    (Phase.after r).Keeps j (m'.engine.pendingOf p)
      m'.history := by
  cases hOwn with
  | @delivered f w m₁ _ _ hKey hReadied hWorker hWorked =>
      have hExtends :=
        (hReadied.calls.trans hWorked.calls).suffix
      rcases hSource (.poll (.done (.fragment f))) hExtends with
        ⟨c, hFollows⟩
      have hDelivering := hKeeps.deliver hKey hFollows
      exact hWorked.keeps (hReadied.delivering hDelivering)
  | released ps =>
      by_cases hAssigned : p ∈ ps
      · have hPending :
            (m.engine.keepOnly ps).pendingOf p =
              m.engine.pendingOf p := by
          simp [Engine.pendingOf, Engine.keepOnly, hAssigned]
        rw [hPending]
        exact hKeeps.assigned hAssigned
      · have hPending :
            (m.engine.keepOnly ps).pendingOf p = [] := by
          simp [Engine.pendingOf, Engine.keepOnly, hAssigned]
        rw [hPending]
        apply Journal.Delivering.of_resume hKeeps.covered
        · exact hKeeps.covered
        · intro offset cause hRewind
          cases hRewind
        · intro c
          simp [Journal.next, hAssigned]
  | ticked hFound hWorker hWorked =>
      rw [Engine.pendingOf_of_get? hFound] at hKeeps
      exact hWorked.keeps hKeeps

/- So does a move that does nothing to the partition. -/
theorem Apart.keeps
    (hApart : Apart p m m')
    (hKeeps :
      j.Delivering (m.engine.pendingOf p) m.history) :
    j.Delivering (m'.engine.pendingOf p) m'.history := by
  rw [hApart.pendingOf_eq]
  exact hKeeps.grows hApart.still

theorem Apart.safe
    (hApart : Apart p m m')
    (hSafe : j.Safe (m.engine.pendingOf p) m.history) :
    j.Safe (m'.engine.pendingOf p) m'.history := by
  rw [hApart.pendingOf_eq]
  exact hSafe.grows hApart.still

/- The final flush of a partition keeps its commits covered. -/
theorem FlushedOut.safe
    (hOut : FlushedOut p m r m')
    (hSafe : j.Safe (m.engine.pendingOf p) m.history) :
    j.Safe (m'.engine.pendingOf p) m'.history := by
  have hFlush
      {w w' : Worker}
      {answer : FlushEnd}
      {h' : History}
      (hWorker : m.engine.workers.get? p = some w)
      (hFlushed :
        w.Flushed .shutdown m.history answer w' h') :
      j.Safe ((m.engine.putWorker p w').pendingOf p) h' ∧
        ∀ b, answer = .committed b → j.Covers b.last h' := by
    rw [Engine.pendingOf_of_get? hWorker] at hSafe
    rw [Engine.pendingOf_putWorker]
    exact hFlushed.safe hSafe
  have hCommit
      {pending : List Fragment}
      {h' : History}
      {b : CommittedBatch}
      (hSafe :
        j.Safe pending h' ∧
          ∀ b', FlushEnd.committed b = .committed b' →
            j.Covers b'.last h')
      (a : Awaited (Except Error Unit)) :
      j.Safe pending (.commit b.last a :: h') := by
    rcases hSafe with ⟨hSafe, hCovers⟩
    refine ⟨hSafe.covered.commit (hCovers b rfl) a,
      hSafe.known, ?_⟩
    intro g hg f hFragment hOffset
    exact (hSafe.upTo g hg f hFragment hOffset).imp_left
      (List.mem_cons_of_mem _)
  cases hOut with
  | unstored hWorker hFlushed => exact (hFlush hWorker hFlushed).1
  | cut hWorker hFlushed => exact (hFlush hWorker hFlushed).1
  | acknowledged hWorker hFlushed =>
      exact hCommit (hFlush hWorker hFlushed) _
  | unacknowledged cause hWorker hFlushed =>
      exact hCommit (hFlush hWorker hFlushed) _
  | lost hWorker hFlushed =>
      exact hCommit (hFlush hWorker hFlushed) _

------------------------------------------------------------
-- Runs
------------------------------------------------------------

variable {phase phase' : Phase}

/-
  What holds at a moment of a run: what its phase promises if
  the source kept to its journal so far, and covered commits
  as far as it did, also where it no longer does.
-/
structure Sound
    (j : Journal p)
    (phase : Phase)
    (m : Moment) : Prop where
  keeps :
    (∃ c, j.Follows m.history c) →
      phase.Keeps j (m.engine.pendingOf p) m.history
  covered :
    ∀ h, h <:+ m.history → (∃ c, j.Follows h c) →
      j.CommitsCovered h

theorem Phase.Keeps.covered
    (hKeeps : phase.Keeps j pending h) :
    j.CommitsCovered h := by
  cases phase with
  | running => exact (Journal.Delivering.toSafe hKeeps).covered
  | stopped => exact Journal.Safe.covered hKeeps
  | flushing => exact Journal.Safe.covered hKeeps
  | flushed => exact Journal.Safe.covered hKeeps

/-
  A move keeps all this if it keeps the promises wherever the
  source kept to its journal up to the first event of the move.
  A crash in the middle of the move may come after that event.
-/
theorem Sound.step
    (hSound : Sound j phase m)
    (hExtends : m.history <:+ m'.history)
    (hStep :
      phase.Keeps j (m.engine.pendingOf p) m.history →
        (∀ e, e :: m.history <:+ m'.history →
          ∃ c, j.Follows (e :: m.history) c) →
        phase'.Keeps j (m'.engine.pendingOf p) m'.history) :
    Sound j phase' m' := by
  have hMiddle
      (h : History)
      (hBefore : m.history <:+ h)
      (hAfter : h <:+ m'.history)
      (hProper :
        m.history.length < h.length ∨ h = m'.history)
      (hFollows : ∃ c, j.Follows h c) :
      phase'.Keeps j (m'.engine.pendingOf p) m'.history := by
    have hTo
        (h₁ : History)
        (hSuffix : h₁ <:+ h) :
        ∃ c, j.Follows h₁ c := by
      rcases hSuffix with ⟨es, rfl⟩
      rcases hFollows with ⟨c, hFollows⟩
      exact hFollows.before
    refine hStep (hSound.keeps (hTo _ hBefore)) ?_
    intro e hEvent
    apply hTo
    rcases hProper with hLonger | rfl
    · exact List.suffix_of_suffix_length_le hEvent hAfter hLonger
    · exact hEvent
  refine ⟨?_, ?_⟩
  · exact hMiddle m'.history hExtends List.suffix_rfl (.inr rfl)
  · intro h hSuffix hFollows
    by_cases hLonger : m.history.length < h.length
    · have hBefore :=
        List.suffix_of_suffix_length_le hExtends hSuffix
          (Nat.le_of_lt hLonger)
      exact (hMiddle h hBefore hSuffix (.inl hLonger)
        hFollows).covered.of_suffix hSuffix
    · exact hSound.covered h
        (List.suffix_of_suffix_length_le hSuffix hExtends
          (Nat.le_of_not_lt hLonger)) hFollows

/- Every moment that a run goes through is sound. -/
theorem Reaches.sound
    {start : Moment}
    (hReaches : Reaches start phase m)
    (hKeyed : start.engine.Keyed)
    (hStart : Sound j .running start) :
    Sound j phase m := by
  induction hReaches with
  | start => exact hStart
  | @move m m' r hReaches hMove ih =>
      apply ih.step hMove.extends
      intro hKeeps hSource
      rcases hMove.own_or_apart p (hReaches.keyed hKeyed) with
        hOwn | hApart
      · exact hOwn.keeps hKeeps hSource
      · have hKept := hApart.keeps hKeeps
        cases r with
        | ok => exact hKept
        | error => exact hKept.toSafe
  | close _ _ ih =>
      apply ih.step (List.suffix_cons _ _)
      intro hKeeps _
      exact Journal.Safe.cons hKeeps id
  | @flush m m' why hReaches hMove ih =>
      apply ih.step hMove.extends
      intro hKeeps _
      rcases hMove with ⟨q, hOut⟩
      by_cases hKey : q = p
      · subst hKey
        exact hOut.safe hKeeps
      · exact (hOut.apart (hReaches.keyed hKeyed) hKey).safe
          hKeeps
  | @cut m m' why hReaches hMove ih =>
      apply ih.step hMove.extends
      intro hKeeps _
      rcases hMove with ⟨q, hOut⟩
      by_cases hKey : q = p
      · subst hKey
        exact hOut.safe hKeeps
      · exact (hOut.apart (hReaches.keyed hKeyed) hKey).safe
          hKeeps
  | flushed _ ih => exact ⟨ih.keeps, ih.covered⟩

/- So is the last history of a run, however it concludes. -/
theorem Concludes.covered
    {start : Moment}
    {ending : Engine.RunEnd}
    (hConcludes : Concludes start ending m)
    (hKeyed : start.engine.Keyed)
    (hStart : Sound j .running start)
    (hSuffix : h <:+ m.history)
    (hFollows : ∃ c, j.Follows h c) :
    j.CommitsCovered h := by
  cases hConcludes with
  | unfinished hReaches =>
      exact (hReaches.sound hKeyed hStart).covered h hSuffix hFollows
  | faulted hReaches =>
      exact (hReaches.sound hKeyed hStart).covered h hSuffix hFollows
  | closed metrics hReaches =>
      exact (hReaches.sound hKeyed hStart).covered h hSuffix hFollows
  | overflowed metrics fault hReaches =>
      exact (hReaches.sound hKeyed hStart).covered h hSuffix hFollows

------------------------------------------------------------
-- Lives of Engines
------------------------------------------------------------

/-
  The histories of engines that follow each other, each in a
  world of its own.  A history may be cut off anywhere, by a
  crash, and the next engine starts from there.
-/
inductive Lived : History → Prop
| unborn : Lived []
| lived
    {σ : Type}
    {earlier h : History}
    (world : World σ)
    (settings : Settings)
    (steps : Nat)
    (s : σ)
    (hEarlier : Lived earlier)
    (hCut :
      h <:+
        (Engine.run world.recorded steps (.fresh settings)
          (s, .started :: earlier)).last.world.2) :
    Lived h

/- A new engine starts soundly where a sound life went before. -/
theorem sound_start
    (settings : Settings)
    {earlier : History}
    (hEarlier :
      ∀ h, h <:+ earlier → (∃ c, j.Follows h c) →
        j.CommitsCovered h) :
    Sound j .running
      ⟨(Engine.fresh settings).started, .started :: earlier⟩ := by
  have hKeeps
      (hFollows : ∃ c, j.Follows (.started :: earlier) c) :
      j.Delivering [] (.started :: earlier) := by
    rcases hFollows with ⟨c, hFollows⟩
    have hStarted : j.Follows ([.started] ++ earlier) c := hFollows
    have hCovered :=
      hEarlier earlier List.suffix_rfl hStarted.before
    exact .of_resume hCovered hCovered nofun fun _ => rfl
  refine ⟨hKeeps, ?_⟩
  intro h hSuffix hFollows
  rcases List.suffix_cons_iff.mp hSuffix with rfl | hBefore
  · exact (hKeeps hFollows).covered
  · exact hEarlier h hBefore hFollows

theorem commitsCovered_of_lived
    (hLived : Lived h)
    (hFollows : ∃ c, j.Follows h c) :
    j.CommitsCovered h := by
  suffices hAll :
      ∀ h', h' <:+ h → (∃ c, j.Follows h' c) →
        j.CommitsCovered h' from
    hAll h List.suffix_rfl hFollows
  clear hFollows
  induction hLived with
  | unborn =>
      intro h' hSuffix _
      rw [List.suffix_nil.mp hSuffix]
      trivial
  | @lived σ earlier h world settings steps s _ hCut ih =>
      intro h' hSuffix hFollows
      have hKeyed : (Engine.fresh settings).started.Keyed := nofun
      exact (run_reaches world steps (.fresh settings) s
        (.started :: earlier)).2.covered hKeyed
          (sound_start settings ih) (hSuffix.trans hCut) hFollows

/-
  At-least-once delivery: whenever an offset of a partition is
  committed, by whichever of the engines, every fragment of
  the partition up to it has been stored before.
-/
theorem covers_of_lived
    {c : Cursor}
    {later earlier : History}
    {t : OffsetToken}
    {a : Awaited (Except Error Unit)}
    (hLived : Lived h)
    (hFollows : j.Follows h c)
    (hCommit : h = later ++ .commit t a :: earlier)
    (hKey : t.key = p) :
    j.Covers t earlier := by
  subst hCommit
  have hCovered := commitsCovered_of_lived hLived ⟨c, hFollows⟩
  have hHere :=
    hCovered.of_suffix (List.suffix_append later _)
  exact hHere.1 hKey

/- The program has ended, and the next engine goes on from there. -/
def secondScript : Script where
  polls := [.fragment (Script.fragment 6)]
  uploads := []
  assigned := [Script.partition]

def firstLife : History :=
  (Engine.run Script.world.recorded 6 (.fresh Script.settings)
    (Script.redelivered, [.started])).last.world.2

def secondLife : History :=
  (Engine.run Script.world.recorded 6 (.fresh Script.settings)
    (secondScript, .started :: firstLife)).last.world.2

theorem lived_secondLife : Lived secondLife := by
  have hFirst : Lived firstLife := by
    apply Lived.lived Script.world Script.settings 6 Script.redelivered
      .unborn
    unfold firstLife
    exact List.suffix_rfl
  apply Lived.lived Script.world Script.settings 6 secondScript
    hFirst
  unfold secondLife
  exact List.suffix_rfl

theorem inOrder_secondLife :
    Script.journal.InOrder secondLife := by
  decide +kernel

/- Whether an event commits an offset. -/
def Event.commits (t : OffsetToken) : Event → Bool
| .commit u _ => u = t
| _ => false

theorem exists_commit
    {t : OffsetToken}
    (hCommits : h.any (Event.commits t) = true) :
    ∃ later a earlier, h = later ++ .commit t a :: earlier := by
  rcases List.any_eq_true.mp hCommits with ⟨e, hMember, hEvent⟩
  rcases List.append_of_mem hMember with ⟨later, earlier, hSplit⟩
  cases e with
  | commit u a =>
      cases of_decide_eq_true hEvent
      exact ⟨later, a, earlier, hSplit⟩
  | _ => cases hEvent

theorem covers_of_secondLife :
    ∃ later a earlier,
      Lived secondLife ∧
        Script.journal.Follows secondLife
          (Script.journal.cursorAt secondLife) ∧
        secondLife =
          later ++
            .commit (Script.fragment 6).token a :: earlier ∧
        Script.journal.Covers (Script.fragment 6).token
          earlier := by
  have hCommits :
      secondLife.any (Event.commits (Script.fragment 6).token) =
        true := by
    decide +kernel
  rcases exists_commit hCommits with ⟨later, a, earlier, hSplit⟩
  exact ⟨later, a, earlier, lived_secondLife,
    inOrder_secondLife.follows, hSplit,
    covers_of_lived lived_secondLife inOrder_secondLife.follows
      hSplit rfl⟩

end FragmentSink
