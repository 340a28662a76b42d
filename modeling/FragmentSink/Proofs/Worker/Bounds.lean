import FragmentSink.Proofs.Buffer.ClosedForm
import FragmentSink.Proofs.Worker.Calls

/-
  Bounded memory and bounded latency of one worker.

  Whatever becomes of its commits, a worker never hands on more
  than its bounds allow, and never holds a fragment for longer
  than its window.  The window runs from the instant at which
  the buffer was opened, which is no later than the submission
  of anything that is pending in it.

  Main declarations:
    * `Thresholds.Admits`
    * `Worker.Steady`
    * `Worker.Holds`
    * `Worker.Visit.Within`
    * `Worker.within_of_visits`
-/

namespace FragmentSink

variable {σ : Type}

------------------------------------------------------------
-- Deadlines
------------------------------------------------------------

/- A buffer that is not due is younger than its window. -/
theorem BufferState.lt_of_not_due
    {thresholds : Thresholds}
    {opened now : Timestamp}
    (hOpened : opened.InRange)
    (hDue : ¬ deadlineFrom thresholds opened ≤ now) :
    now.nanos < opened.nanos + thresholds.window := by
  rw [Timestamp.le_def, Int.not_le, nanos_deadlineFrom hOpened]
    at hDue
  exact Int.lt_of_lt_of_le hDue (Int.min_le_left _ _)

/- A buffer without a reason for a flush is below all its bounds. -/
theorem BufferState.below_of_reason_eq_none
    {s : BufferState}
    {now : Timestamp}
    (hReason : (s.readinessAt now).reason = none) :
    s.count < s.thresholds.count ∧
      s.bytes < s.thresholds.bytes ∧
      ¬ s.deadline ≤ now := by
  have hIdle : ¬ (s.readinessAt now).isReady = true := by
    rw [Readiness.isReady_iff_reason, hReason]
    exact Bool.false_ne_true
  rw [isReady_readinessAt_iff] at hIdle
  simpa using hIdle

------------------------------------------------------------
-- Readings of the Clock
------------------------------------------------------------

/- The readings of the clock in a history, oldest first. -/
def History.readings : History → List Timestamp
| [] => []
| .clock now :: h => readings h ++ [now]
| _ :: h => readings h

/- A commit uploads its batch in order, as far as that goes. -/
theorem Uploaded.isPrefix_uploads
    {batch : List Fragment}
    {h h' : History}
    {ending : CommitEnd}
    (hUploaded : Uploaded batch h ending h')
    (hUploads : h.uploads = []) :
    h'.uploads.map Prod.fst <+: batch := by
  have hPart
      (before after : List Fragment)
      (f : Fragment)
      (last : UploadEnd) :
      (History.uploads
            (.upload f last :: (storedRow before ++ h))).map
          Prod.fst <+: before ++ f :: after := by
    refine ⟨after, ?_⟩
    simp [History.uploads, History.uploads_storedRow_append,
      hUploads, Function.comp_def]
  cases hUploaded with
  | durable =>
      simp [History.uploads_storedRow_append, hUploads,
        Function.comp_def]
  | failed before f after _ last => exact hPart before after f last
  | dropped before f after => exact hPart before after f .dropped

namespace Worker

namespace Visit

/- The readings of the clock during a visit, oldest first. -/
def readings (v : Visit) : List Timestamp :=
  v.events.readings

/- The instant at which a visit looked at its buffer. -/
def readAt (v : Visit) : Option Timestamp :=
  v.readings.head?

end Visit

/-
  A clock that does not go backwards from the instant at which
  a worker was opened, and shows instants of the calendar.
-/
structure Steady (opened : Timestamp) (vs : List Visit) : Prop where
  ordered :
    (opened :: vs.flatMap (·.readings)).Pairwise (· ≤ ·)
  inRange :
    ∀ now ∈ opened :: vs.flatMap (·.readings), now.InRange

------------------------------------------------------------
-- Flushes and Ticks
------------------------------------------------------------

section Flush

variable {w w' : Worker}
variable {h h' : History}
variable {answer : FlushEnd}

/- A flush leaves nothing pending, however it ends. -/
theorem Flushed.pending_eq_nil
    {reason : FlushReason}
    (hFlushed : w.Flushed reason h answer w' h') :
    w'.pending = [] := by
  cases hFlushed with
  | empty now hPending => exact hPending
  | durable => rfl
  | failed => rfl
  | dropped => rfl

/- A flush that is not dropped renews the buffer at its last reading. -/
theorem Flushed.renewed
    {reason : FlushReason}
    (hFlushed : w.Flushed reason h answer w' h')
    (hAnswer : answer ≠ .dropped) :
    ∃ now, now ∈ h'.readings ∧
      w'.state = w.state.renewAt now := by
  cases hFlushed with
  | empty now => exact ⟨now, by simp [History.readings], rfl⟩
  | durable first rest duration now =>
      exact ⟨now, by simp [History.readings], rfl⟩
  | failed first rest uploads now =>
      exact ⟨now, by simp [History.readings], rfl⟩
  | dropped => exact absurd rfl hAnswer

/- A tick leaves fragments pending only where the buffer is not ready. -/
theorem Ticked.unready_of_pending
    (hTicked : w.Ticked h answer w' h')
    (hPending : w'.pending ≠ []) :
    w' = w ∧ ∃ now, h' = .clock now :: h ∧
      (w.state.readinessAt now).reason = none := by
  cases hTicked with
  | idle now hReason => exact ⟨rfl, now, rfl, hReason⟩
  | ready now reason hReason hFlushed =>
      exact absurd hFlushed.pending_eq_nil hPending

/- So does every call to a worker that is not refused. -/
theorem Call.unready_of_pending
    (env : Surroundings σ)
    (call : Call)
    (w : Worker)
    (s : σ)
    (answer : FlushEnd)
    (hAnswer : (call.visit env w s).1.answer = .ok answer)
    (hPending : (call.visit env w s).1.after.pending ≠ []) :
    ∃ now,
      (call.visit env w s).1.readings = [now] ∧
        ((call.visit env w s).1.after.state.readinessAt
          now).reason = none := by
  have hTick
      (loaded : Worker)
      (hLeft :
        (loaded.tick env.recorded (s, [])).2.1.pending ≠ []) :
      ∃ now,
        (loaded.tick env.recorded (s, [])).2.2.2.readings =
            [now] ∧
          ((loaded.tick env.recorded
            (s, [])).2.1.state.readinessAt now).reason =
            none := by
    rcases (loaded.ticked_tick env s []).unready_of_pending hLeft
      with ⟨hSame, now, hEvents, hReason⟩
    rw [hSame, hEvents]
    exact ⟨now, rfl, hReason⟩
  cases call with
  | submit f =>
      by_cases hRouted : f.partitionKey = w.partition
      · rw [visit_submit_of_routed env s hRouted] at hPending ⊢
        exact hTick (w.append f) hPending
      · rw [visit_submit_of_misrouted env s hRouted] at hAnswer
        cases hAnswer
  | tick =>
      rw [visit_tick] at hPending ⊢
      exact hTick w hPending
  | flush reason =>
      rw [visit_flush] at hPending
      have hFlushed := w.flushed_flush env reason s []
      exact absurd hFlushed.pending_eq_nil hPending

/- A batch is uploaded in its order, as far as that goes. -/
theorem Flushed.isPrefix_uploads
    {reason : FlushReason}
    (hFlushed : w.Flushed reason h answer w' h')
    (hUploads : h.uploads = []) :
    h'.uploads.map Prod.fst <+: w.pending := by
  cases hFlushed with
  | empty => simp [History.uploads, hUploads]
  | durable first rest duration now hPending =>
      rw [hPending]
      exact (Uploaded.durable (first :: rest) h).isPrefix_uploads
        hUploads
  | failed first rest uploads now hPending hUploaded =>
      rw [hPending]
      exact hUploaded.isPrefix_uploads hUploads
  | dropped first rest uploads hPending hUploaded =>
      rw [hPending]
      exact hUploaded.isPrefix_uploads hUploads

end Flush

------------------------------------------------------------
-- Bounded Workers
------------------------------------------------------------

end Worker

/-
  A batch that is as large as its bounds allow: it is ready
  with its last fragment, and was not before.
-/
structure Thresholds.Admits
    (t : Thresholds)
    (batch : List Fragment) : Prop where
  few : batch.length ≤ max 1 t.count.toNat
  small :
    2 ≤ batch.length →
      totalSize batch.dropLast < t.bytes.toNat

namespace Worker

/-
  What is pending at an instant: too little for a flush, and
  all of it submitted within the window before.  It is what
  the latest visits brought, so that every fragment has a
  submission of its own.
-/
structure Holds
    (t : Thresholds)
    (vs : List Visit)
    (now : Timestamp)
    (w : Worker) : Prop where
  few : w.pending.length < t.count.toNat
  small : totalSize w.pending < t.bytes.toNat
  young :
    ∃ past latest,
      vs = past ++ latest ∧
        w.pending = latest.flatMap (·.accepted) ∧
        ∀ u ∈ latest, u.accepted ≠ [] →
          ∃ s, u.readAt = some s ∧
            now.nanos < s.nanos + t.window

/-
  A worker between two visits.  What is pending came in after
  the buffer was opened, and has not reached a bound.
-/
structure Bounded
    (t : Thresholds)
    (opened : Timestamp)
    (vs : List Visit)
    (w : Worker) : Prop where
  thresholds_eq : w.state.thresholds = t
  deadline_eq :
    w.state.deadline =
      BufferState.deadlineFrom t w.state.openedAt
  mirrors : w.Mirrors
  below :
    w.pending ≠ [] →
      w.pending.length < t.count.toNat ∧
        totalSize w.pending < t.bytes.toNat
  since :
    ∃ past latest,
      vs = past ++ latest ∧
        w.pending = latest.flatMap (·.accepted) ∧
        w.state.openedAt ∈
          opened :: past.flatMap (·.readings) ∧
        ∀ u ∈ latest, u.accepted ≠ [] → u.readAt.isSome

section Bounded

variable {t : Thresholds}
variable {opened now : Timestamp}
variable {vs : List Visit}
variable {v : Visit}
variable {w loaded : Worker}
variable {call : Call}

theorem bounded_openAt
    (p : PartitionKey)
    (t : Thresholds)
    (limit : Option Span)
    (opened : Timestamp) :
    Bounded t opened [] (.openAt p t limit opened) where
  thresholds_eq := rfl
  deadline_eq := rfl
  mirrors := .of_open rfl rfl
  below hPending := absurd rfl hPending
  since := ⟨[], [], rfl, rfl, List.mem_cons_self,
    List.forall_mem_nil _⟩

/- Below its bounds, the counters of a buffer are exact. -/
theorem Mirrors.below
    (hMirrors : w.Mirrors)
    (hThresholds : w.state.thresholds = t)
    (hReason : (w.state.readinessAt now).reason = none) :
    w.pending.length < t.count.toNat ∧
      totalSize w.pending < t.bytes.toNat := by
  rcases BufferState.below_of_reason_eq_none hReason with
    ⟨hCount, hBytes, -⟩
  rw [hThresholds, UInt64.lt_iff_toNat_lt] at hCount hBytes
  rw [hMirrors.count] at hCount
  rw [hMirrors.bytes] at hBytes
  have hMostFragments := t.count.toNat_lt
  have hMostBytes := t.bytes.toNat_lt
  simp only [Word.top, UInt64.size] at hCount hBytes
  omega

/- A batch that is handed on was below the bounds but for its last. -/
theorem Bounded.admits
    (hBounded : Bounded t opened vs w)
    (hLoads : call.Loads w loaded) :
    t.Admits loaded.pending := by
  have hWhole : t.Admits w.pending := by
    by_cases hPending : w.pending = []
    · exact ⟨by simp [hPending], by simp [hPending]⟩
    · rcases hBounded.below hPending with ⟨hFew, hSmall⟩
      refine ⟨by omega, fun _ => ?_⟩
      have hSplit :=
        totalSize_append w.pending.dropLast
          [w.pending.getLast hPending]
      rw [List.dropLast_concat_getLast] at hSplit
      omega
  cases hLoads with
  | submit f =>
      refine ⟨?_, ?_⟩
      · have hLength :
            (w.append f).pending.length =
              w.pending.length + 1 := by
          simp [Worker.append]
        by_cases hPending : w.pending = []
        · simp only [hLength, hPending, List.length_nil]
          exact Nat.le_max_left _ _
        · have hFew := (hBounded.below hPending).1
          omega
      · intro hMany
        have hPending : w.pending ≠ [] := by
          intro hEmpty
          simp [Worker.append, hEmpty] at hMany
        have hSmall := (hBounded.below hPending).2
        simpa [Worker.append] using hSmall
  | tick => exact hWhole
  | flush => exact hWhole

/- A visit that ran to its end leaves the worker bounded. -/
theorem Bounded.of_made
    (hBounded : Bounded t opened vs v.before)
    (hMade : v.Made)
    (hAnswer : v.answer ≠ .ok .dropped)
    (hUnready :
      ∀ answer, v.answer = .ok answer → v.after.pending ≠ [] →
        ∃ now, v.readings = [now] ∧
          (v.after.state.readinessAt now).reason = none) :
    Bounded t opened (vs ++ [v]) v.after := by
  rcases hBounded with
    ⟨hThresholds, hDeadline, hMirrors, hBelow,
      past, latest, rfl, hPending, hOpened, hRead⟩
  cases hMade with
  | misrouted w f =>
      refine ⟨hThresholds, hDeadline, hMirrors, hBelow,
        past, latest ++ [_], List.append_assoc _ _ _, ?_,
        hOpened, ?_⟩
      · simpa using hPending
      · rw [List.forall_mem_append]
        exact ⟨hRead, by simp⟩
  | @idle w loaded call now hLoads =>
      have hReason := hUnready _ rfl
      rcases hLoads.kept with
        ⟨-, hSame, -, hLoaded⟩
      have hMirrored := hLoads.mirrors hMirrors
      have hLoadedThresholds := hSame.trans hThresholds
      have hState :
          loaded.state.deadline = w.state.deadline ∧
            loaded.state.openedAt = w.state.openedAt := by
        cases hLoads <;> exact ⟨rfl, rfl⟩
      refine ⟨hLoadedThresholds, ?_, hMirrored, ?_,
        past, latest ++ [_], List.append_assoc _ _ _, ?_, ?_, ?_⟩
      · have hOpenedAt :
            BufferState.deadlineFrom t w.state.openedAt =
              BufferState.deadlineFrom t loaded.state.openedAt :=
          congrArg _ hState.2.symm
        exact hState.1.trans (hDeadline.trans hOpenedAt)
      · intro hLeft
        rcases hReason hLeft with ⟨seen, -, hReason⟩
        exact hMirrored.below hLoadedThresholds hReason
      · simpa [hLoaded] using hPending
      · simpa only [hState] using hOpened
      · rw [List.forall_mem_append]
        refine ⟨hRead, ?_⟩
        simp [Visit.readAt, Visit.readings, History.readings]
  | @flushed w loaded w' call h events answer reason hLoads
      hUploads hFlushed =>
      have hEmpty := hFlushed.pending_eq_nil
      rcases hFlushed.renewed
          (fun hEq => hAnswer (congrArg Except.ok hEq)) with
        ⟨now, hNow, hState⟩
      have hOpen : w'.state = .openAt t now := by
        rw [hState, BufferState.renewAt, hLoads.kept.2.1,
          hThresholds]
      refine ⟨?_, ?_, .of_open hOpen hEmpty,
        fun hLeft => absurd hEmpty hLeft,
        past ++ latest ++ [_], [], (List.append_nil _).symm,
        hEmpty, ?_, List.forall_mem_nil _⟩
      · rw [hOpen]
        rfl
      · rw [hOpen]
        rfl
      · rw [hOpen]
        apply List.mem_cons_of_mem
        rw [List.flatMap_append]
        apply List.mem_append_right
        simpa [Visit.readings, BufferState.openAt] using hNow

/- The readings of a steady clock only go up to the latest. -/
theorem Steady.le_last
    (hSteady : Steady opened (vs ++ [v]))
    (hReadings : v.readings = [now])
    {seen : Timestamp}
    (hSeen :
      seen ∈ opened :: (vs ++ [v]).flatMap (·.readings)) :
    seen ≤ now := by
  have hOrdered := hSteady.ordered
  simp only [List.flatMap_append, List.flatMap_singleton,
    hReadings] at hSeen hOrdered
  rw [← List.cons_append, List.mem_append, List.mem_singleton]
    at hSeen
  rw [← List.cons_append, List.pairwise_append] at hOrdered
  rcases hSeen with hBefore | rfl
  · exact hOrdered.2.2 seen hBefore now (List.mem_singleton_self now)
  · exact Timestamp.le_def.mpr (Int.le_refl _)

/- What is pending where a buffer is not ready is held within its bounds. -/
theorem Bounded.holds
    (hBounded : Bounded t opened vs w)
    (hSteady : Steady opened vs)
    (hReason : (w.state.readinessAt now).reason = none)
    (hPending : w.pending ≠ []) :
    Holds t vs now w := by
  rcases hBounded.below hPending with ⟨hFew, hSmall⟩
  rcases hBounded.since with
    ⟨past, latest, rfl, hLatest, hOpened, hRead⟩
  rcases BufferState.below_of_reason_eq_none hReason with
    ⟨-, -, hDue⟩
  have hMember :
      w.state.openedAt ∈
        opened :: (past ++ latest).flatMap (·.readings) := by
    rw [List.flatMap_append, ← List.cons_append]
    exact List.mem_append_left _ hOpened
  rw [hBounded.deadline_eq] at hDue
  have hYoung :=
    BufferState.lt_of_not_due (hSteady.inRange _ hMember) hDue
  refine ⟨hFew, hSmall, past, latest, rfl, hLatest, ?_⟩
  intro u hLater hAccepted
  rcases Option.isSome_iff_exists.mp (hRead u hLater hAccepted)
    with ⟨s, hAt⟩
  have hOrdered := hSteady.ordered
  rw [List.flatMap_append, ← List.cons_append,
    List.pairwise_append] at hOrdered
  have hSince : w.state.openedAt ≤ s :=
    hOrdered.2.2 _ hOpened s
      (List.mem_flatMap.mpr ⟨u, hLater, List.mem_of_head? hAt⟩)
  rw [Timestamp.le_def] at hSince
  exact ⟨s, hAt, by omega⟩

/- A bound of zero holds nothing back. -/
theorem Holds.ne_zero
    (hHolds : Holds t (vs ++ [v]) now w)
    (hSteady : Steady opened (vs ++ [v]))
    (hReadings : v.readings = [now])
    (hPending : w.pending ≠ []) :
    t.count ≠ 0 ∧ t.bytes ≠ 0 ∧ t.seconds ≠ 0 := by
  have hFew := hHolds.few
  have hSmall := hHolds.small
  refine ⟨?_, ?_, ?_⟩
  · intro hZero
    simp [hZero] at hFew
  · intro hZero
    simp [hZero] at hSmall
  · intro hZero
    rcases hHolds.young with ⟨past, latest, hSplit, hLatest, hYoung⟩
    rw [hLatest, ne_eq, List.flatMap_eq_nil_iff] at hPending
    simp only [Classical.not_forall] at hPending
    rcases hPending with ⟨u, hLater, hAccepted⟩
    rcases hYoung u hLater hAccepted with ⟨s, hAt, hLess⟩
    have hMember :
        s ∈ opened :: (vs ++ [v]).flatMap (·.readings) := by
      rw [hSplit]
      apply List.mem_cons_of_mem
      exact List.mem_flatMap.mpr
        ⟨u, List.mem_append_right _ hLater, List.mem_of_head? hAt⟩
    have hLe := hSteady.le_last hReadings hMember
    rw [Timestamp.le_def] at hLe
    simp [Thresholds.window, hZero] at hLess
    omega

/- The batch that a visit hands on is admitted, and uploaded in order. -/
theorem Bounded.admits_made
    (hBounded : Bounded t opened vs v.before)
    (hMade : v.Made) :
    t.Admits v.batch ∧
      v.events.uploads.map Prod.fst <+: v.batch := by
  have hNone : t.Admits [] := ⟨Nat.zero_le _, by simp⟩
  cases hMade with
  | misrouted => exact ⟨hNone, List.prefix_rfl⟩
  | idle => exact ⟨hNone, List.prefix_rfl⟩
  | flushed reason hLoads hUploads hFlushed =>
      rw [Visit.batch_mk, flatten_batches]
      exact ⟨hBounded.admits hLoads,
        hFlushed.isPrefix_uploads hUploads⟩

/- A refused call changes nothing. -/
theorem Visit.Made.after_eq_of_error
    {fault : Fault}
    (hMade : v.Made)
    (hAnswer : v.answer = .error fault) :
    v.after = v.before := by
  cases hMade with
  | misrouted => rfl
  | idle => cases hAnswer
  | flushed => cases hAnswer

end Bounded

------------------------------------------------------------
-- Bounded Memory and Bounded Latency
------------------------------------------------------------

/-
  What the bounds of a worker promise of one visit, after the
  visits before it: of the batch that it hands on, and of what
  it leaves pending.
-/
structure Visit.Within
    (t : Thresholds)
    (vs : List Visit)
    (v : Visit) : Prop where
  admitted : t.Admits v.batch
  sent : v.events.uploads.map Prod.fst <+: v.batch
  held :
    ∀ answer, v.answer = .ok answer →
      v.after.pending = [] ∨
        ∃ now, v.readAt = some now ∧
          Holds t (vs ++ [v]) now v.after
  emptied :
    t.count = 0 ∨ t.bytes = 0 ∨ t.seconds = 0 →
      v.after.pending = []

section Within

variable {t : Thresholds}
variable {opened : Timestamp}
variable {vs : List Visit}
variable {w : Worker}

/- What holds between two visits under a clock that is steady so far. -/
structure AtRest
    (t : Thresholds)
    (opened : Timestamp)
    (vs : List Visit)
    (w : Worker) : Prop where
  bounded : Bounded t opened vs w
  emptied :
    Steady opened vs →
      t.count = 0 ∨ t.bytes = 0 ∨ t.seconds = 0 →
        w.pending = []

/- A clock that is steady was steady before. -/
theorem Steady.of_append
    {us : List Visit}
    (hSteady : Steady opened (vs ++ us)) :
    Steady opened vs := by
  rcases hSteady with ⟨hOrdered, hRange⟩
  rw [List.flatMap_append, ← List.cons_append] at hOrdered hRange
  exact ⟨(List.pairwise_append.mp hOrdered).1,
    fun now hNow => hRange now (List.mem_append_left _ hNow)⟩

/- Every visit that runs to its end keeps within the bounds. -/
theorem AtRest.visit
    (hRest : AtRest t opened vs w)
    (env : Surroundings σ)
    (call : Call)
    (s : σ)
    (hAnswer : (call.visit env w s).1.answer ≠ .ok .dropped) :
    AtRest t opened (vs ++ [(call.visit env w s).1])
        (call.visit env w s).1.after ∧
      (Steady opened (vs ++ [(call.visit env w s).1]) →
        (call.visit env w s).1.Within t vs) := by
  rcases hRest with ⟨hBounded, hEmptied⟩
  have hMade := call.made_visit env w s
  have hBefore := call.before_visit env w s
  have hUnready := call.unready_of_pending env w s
  generalize (call.visit env w s).1 = v at *
  subst hBefore
  have hAfter :=
    hBounded.of_made hMade hAnswer hUnready
  rcases hBounded.admits_made hMade with ⟨hAdmitted, hSent⟩
  have hHeld
      (hSteady : Steady opened (vs ++ [v]))
      (answer : FlushEnd)
      (hEnds : v.answer = .ok answer)
      (hPending : v.after.pending ≠ []) :
      ∃ now, v.readings = [now] ∧
        Holds t (vs ++ [v]) now v.after := by
    rcases hUnready answer hEnds hPending with
      ⟨now, hReadings, hReason⟩
    exact ⟨now, hReadings,
      hAfter.holds hSteady hReason hPending⟩
  have hNothing
      (hSteady : Steady opened (vs ++ [v]))
      (hZero : t.count = 0 ∨ t.bytes = 0 ∨ t.seconds = 0) :
      v.after.pending = [] := by
    cases hEnds : v.answer with
    | error fault =>
        rw [hMade.after_eq_of_error hEnds]
        exact hEmptied hSteady.of_append hZero
    | ok answer =>
        apply Classical.byContradiction
        intro hPending
        rcases hHeld hSteady answer hEnds hPending with
          ⟨now, hReadings, hHolds⟩
        rcases hHolds.ne_zero hSteady hReadings hPending with
          ⟨hCount, hBytes, hSeconds⟩
        simp [hCount, hBytes, hSeconds] at hZero
  refine ⟨⟨hAfter, hNothing⟩, fun hSteady => ?_⟩
  refine ⟨hAdmitted, hSent, fun answer hEnds => ?_,
    hNothing hSteady⟩
  by_cases hPending : v.after.pending = []
  · exact .inl hPending
  · rcases hHeld hSteady answer hEnds hPending with
      ⟨now, hReadings, hHolds⟩
    exact .inr ⟨now, by simp [Visit.readAt, hReadings], hHolds⟩

end Within

/-
  Bounded memory and bounded latency: under a clock that does
  not go backwards, every visit of a worker keeps within the
  bounds, whatever became of its commits.
-/
theorem within_of_visits
    (env : Surroundings σ)
    (p : PartitionKey)
    (thresholds : Thresholds)
    (limit : Option Span)
    (opened : Timestamp)
    (calls : List Call)
    (s : σ)
    {earlier later : List Visit}
    {v : Visit}
    (hVisits :
      visits env calls (.openAt p thresholds limit opened) s =
        earlier ++ v :: later)
    (hSteady : Steady opened (earlier ++ [v])) :
    v.Within thresholds earlier := by
  have hKeeps
      (vs : List Visit)
      (call : Call)
      (w : Worker)
      (s : σ)
      (hRest : AtRest thresholds opened vs w)
      (hEnds : (call.visit env w s).1.answer ≠ .ok .dropped) :
      AtRest thresholds opened (vs ++ [(call.visit env w s).1])
        (call.visit env w s).1.after :=
    (hRest.visit env call s hEnds).1
  have hStart :
      AtRest thresholds opened []
        (.openAt p thresholds limit opened) :=
    ⟨bounded_openAt p thresholds limit opened, fun _ _ => rfl⟩
  rcases visits_induction hKeeps calls hStart hVisits with
    ⟨hBefore, hEnds, call, u, hVisit⟩
  have hWithin := (hBefore.visit env call u)
  rw [← hVisit] at hWithin
  exact (hWithin hEnds).2 hSteady

/- A clock that shows the listed instants, over a storage that stores all. -/
def dial : Surroundings (List Timestamp) where
  now shown := (shown.headD .latest, shown.tail)
  ticks shown := (0, shown)
  upload _ shown := (.stored, shown)
  armTimer _ shown := shown
  disarmTimer shown := shown

/- Two fragments within the first minute, and a tick in its last second. -/
def youngVisits : List Visit :=
  visits dial
    [.submit (Script.fragment 3), .submit (Script.fragment 4),
      .tick]
    (.openAt Script.partition ⟨3, 100, 60⟩ none ⟨0⟩)
    ([10, 20, 59].map fun seconds => ⟨seconds * 1000000000⟩)

theorem lt_length_youngVisits : 2 < youngVisits.length := by
  decide +kernel

theorem within_of_youngVisits :
    ∃ earlier v,
      youngVisits = earlier ++ [v] ∧
        Steady ⟨0⟩ (earlier ++ [v]) ∧
        v.readAt = some ⟨59 * 1000000000⟩ ∧
        v.after.pending = [3, 4].map Script.fragment ∧
        v.Within ⟨3, 100, 60⟩ earlier := by
  have hSplit :
      youngVisits =
        youngVisits.take 2 ++
          [youngVisits.get ⟨2, lt_length_youngVisits⟩] := by
    rw [List.get_eq_getElem, List.take_append_getElem]
    exact (List.take_length (l := youngVisits)).symm
  have hSteady : Steady ⟨0⟩ youngVisits :=
    ⟨by decide +kernel, by decide +kernel⟩
  rw [hSplit] at hSteady
  refine ⟨_, _, hSplit, hSteady, ?_, ?_, ?_⟩
  · decide +kernel
  · decide +kernel
  · exact within_of_visits _ _ _ _ _ _ _ hSplit hSteady

end Worker

end FragmentSink
