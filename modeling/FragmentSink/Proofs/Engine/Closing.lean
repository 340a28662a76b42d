import FragmentSink.Proofs.Engine.Apart

/-
  What a run adds to its loop when it is closed.

  The final flush makes calls, leaves the health as it is, and
  commits nothing of a partition without pending fragments.
  So a concluded run still shows how its loop ended.

  Main declarations:
    * `History.beforeClosing`
    * `ClosedFrom`
    * `Looped`
    * `Concludes.looped`
-/

namespace FragmentSink

open History

variable {p q : PartitionKey}
variable {h h' : History}
variable {w w' : Worker}
variable {start m m' m₀ : Moment}
variable {phase : Phase}
variable {r : Except Stop Unit}
variable {why : Stop}

------------------------------------------------------------
-- Loops
------------------------------------------------------------

theorem Phase.after_injective
    {r r' : Except Stop Unit}
    (hAfter : Phase.after r = Phase.after r') :
    r = r' := by
  cases r <;> cases r' <;> cases hAfter <;> rfl

/-
  What holds at the start and after every move of a loop holds
  throughout, with how the latest move ended.
-/
theorem Reaches.loop_induction
    {motive : Except Stop Unit → Moment → Prop}
    (hReaches : Reaches start (.after r) m)
    (hStart : motive (.ok ()) start)
    (hMove :
      ∀ m r m', Reaches start .running m → motive (.ok ()) m →
        Move m r m' → motive r m') :
    motive r m := by
  generalize hPhase : Phase.after r = phase at hReaches
  induction hReaches generalizing r with
  | start =>
      have hOk : r = .ok () := Phase.after_injective hPhase
      exact hOk ▸ hStart
  | move hBefore hStep ih =>
      cases Phase.after_injective hPhase
      exact hMove _ _ _ hBefore (ih rfl) hStep
  | close => cases r <;> cases hPhase
  | flush => cases r <;> cases hPhase
  | cut => cases r <;> cases hPhase
  | flushed => cases r <;> cases hPhase

/- A loop makes calls and nothing else. -/
theorem Reaches.calls
    (hReaches : Reaches start (.after r) m) :
    Grows Event.IsCall start.history m.history :=
  hReaches.loop_induction
    (motive := fun _ m =>
      Grows Event.IsCall start.history m.history)
    (.refl _ _)
    fun _ _ _ _ hBefore hMove => hBefore.trans hMove.calls

------------------------------------------------------------
-- Before the Final Flush
------------------------------------------------------------

namespace History

/- What stands behind the latest beginning of a final flush. -/
def behindClosing? : History → Option History
| [] => none
| .closing :: h => some h
| _ :: h => behindClosing? h

/- What happened before the final flush: all, if there was none. -/
def beforeClosing (h : History) : History :=
  (behindClosing? h).getD h

theorem behindClosing?_eq
    (hCalls : Grows Event.IsCall h h') :
    behindClosing? h' = behindClosing? h := by
  apply hCalls.induction (motive := fun h' =>
    behindClosing? h' = behindClosing? h) rfl
  intro e h' hCall hHere
  cases e with
  | closing => cases hCall
  | _ => exact hHere

end History

------------------------------------------------------------
-- The Final Flush
------------------------------------------------------------

/- A commit of a partition, whatever the answer. -/
def Event.Commits (p : PartitionKey) : Event → Prop
| .commit t _ => t.key = p
| _ => False

/- Nothing of a partition is committed. -/
abbrev Uncommitted (p : PartitionKey) : History → History → Prop :=
  Grows fun e => ¬ e.Commits p

/- A worker without pending fragments has nothing to flush. -/
theorem Worker.Flushed.eq_of_idle
    {reason : FlushReason}
    {answer : FlushEnd}
    (hFlushed : w.Flushed reason h answer w' h')
    (hIdle : w.pending = []) :
    answer = .nothing ∧ w'.pending = [] ∧
      ∃ now, h' = .clock now :: h := by
  cases hFlushed with
  | empty now => exact ⟨rfl, hIdle, now, rfl⟩
  | durable first rest duration now hPending =>
      cases hIdle.symm.trans hPending
  | failed first rest uploads now hPending =>
      cases hIdle.symm.trans hPending
  | dropped first rest uploads hPending =>
      cases hIdle.symm.trans hPending

/- A partition without pending fragments stays so, uncommitted. -/
theorem FlushMove.idle
    (hMove : FlushMove m r m')
    (hEngine : m.engine.Keyed)
    (hIdle : m.engine.pendingOf p = []) :
    m'.engine.pendingOf p = [] ∧
      Uncommitted p m.history m'.history := by
  have hHere : Uncommitted p m.history m.history := .refl _ _
  rcases hMove with ⟨q, hOut⟩
  by_cases hKey : q = p
  · subst hKey
    have hFlush
        {w w' : Worker}
        {answer : FlushEnd}
        {h' : History}
        (hWorker : m.engine.workers.get? q = some w)
        (hFlushed :
          w.Flushed .shutdown m.history answer w' h') :
        answer = .nothing ∧ w'.pending = [] ∧
          ∃ now, h' = .clock now :: m.history := by
      rw [Engine.pendingOf_of_get? hWorker] at hIdle
      exact hFlushed.eq_of_idle hIdle
    cases hOut with
    | unstored hWorker hFlushed =>
        rcases hFlush hWorker hFlushed with ⟨-, hEmpty, now, rfl⟩
        exact ⟨by simpa using hEmpty, hHere.cons id⟩
    | cut hWorker hFlushed =>
        cases (hFlush hWorker hFlushed).1
    | acknowledged hWorker hFlushed =>
        cases (hFlush hWorker hFlushed).1
    | unacknowledged cause hWorker hFlushed =>
        cases (hFlush hWorker hFlushed).1
    | lost hWorker hFlushed =>
        cases (hFlush hWorker hFlushed).1
  · have hApart := hOut.apart hEngine hKey
    rcases hApart.events with ⟨es, hEvents, hBeside⟩
    refine ⟨hApart.pendingOf_eq.trans hIdle, es, hEvents, ?_⟩
    intro e hMember hCommits
    apply hBeside e hMember
    cases e with
    | commit => exact hCommits
    | _ => cases hCommits

/- The final flush leaves the health as it is. -/
theorem FlushMove.health_eq
    (hMove : FlushMove m r m') :
    m'.engine.health = m.engine.health := by
  rcases hMove with ⟨q, hOut⟩
  cases hOut <;> rfl

/- A moment of the final flush after a run was stopped at another. -/
structure ClosedFrom (m₀ m : Moment) : Prop where
  calls : Grows Event.IsCall (.closing :: m₀.history) m.history
  health_eq : m.engine.health = m₀.engine.health
  idle :
    ∀ p, m₀.engine.pendingOf p = [] →
      m.engine.pendingOf p = [] ∧
        Uncommitted p (.closing :: m₀.history) m.history

theorem ClosedFrom.flush
    (hClosed : ClosedFrom m₀ m)
    (hMove : FlushMove m r m')
    (hEngine : m.engine.Keyed) :
    ClosedFrom m₀ m' := by
  refine ⟨hClosed.calls.trans hMove.calls,
    hMove.health_eq.trans hClosed.health_eq, ?_⟩
  intro p hIdle
  rcases hClosed.idle p hIdle with ⟨hStill, hBefore⟩
  rcases hMove.idle hEngine hStill with ⟨hAfter, hThen⟩
  exact ⟨hAfter, hBefore.trans hThen⟩

/- A final flush comes from the moment at which the run was stopped. -/
def Phase.Closed (start : Moment) : Phase → Moment → Prop
| .flushing why, m =>
    ∃ m₀, Reaches start (.stopped why) m₀ ∧ ClosedFrom m₀ m
| .flushed why, m =>
    ∃ m₀, Reaches start (.stopped why) m₀ ∧ ClosedFrom m₀ m
| _, _ => True

theorem Reaches.closed
    (hReaches : Reaches start phase m)
    (hKeyed : start.engine.Keyed) :
    phase.Closed start m := by
  induction hReaches with
  | start => trivial
  | @move m m' r => cases r <;> trivial
  | @close m why hStopped hWhy =>
      exact ⟨m, hStopped, .refl _ _, rfl,
        fun p hIdle => ⟨hIdle, .refl _ _⟩⟩
  | flush hBefore hMove ih =>
      rcases ih with ⟨m₀, hStopped, hClosed⟩
      exact ⟨m₀, hStopped,
        hClosed.flush hMove (hBefore.keyed hKeyed)⟩
  | cut hBefore hMove ih =>
      rcases ih with ⟨m₀, hStopped, hClosed⟩
      exact ⟨m₀, hStopped,
        hClosed.flush hMove (hBefore.keyed hKeyed)⟩
  | flushed _ ih => exact ih

------------------------------------------------------------
-- Concluded Runs
------------------------------------------------------------

/-
  A run ends for a reason, unless the gauges that are set last
  overflow.
-/
def Engine.RunEnd.IsFor
    (ending : Engine.RunEnd)
    (e : Engine)
    (why : Stop) : Prop :=
  ending = .ofStop why ∨
    ∃ fault, ending = .fault fault ∧ e.GaugesFail fault

/-
  The loop of a concluded run: its last moment, and what the
  end of the run still shows of it.
-/
structure Looped
    (start : Moment)
    (ending : Engine.RunEnd)
    (m : Moment)
    (r : Except Stop Unit)
    (m₀ : Moment) : Prop where
  reaches : Reaches start (.after r) m₀
  loop_eq : m.history.beforeClosing = m₀.history
  components_eq :
    m.engine.health.components = m₀.engine.health.components
  ended :
    r = .ok () ∧ ending = .unfinished ∨
      ∃ why, r = .error why ∧ ending.IsFor m.engine why
  idle :
    ∀ p, m₀.engine.pendingOf p = [] →
      Uncommitted p m₀.history m.history

theorem Concludes.looped
    {ending : Engine.RunEnd}
    (hConcludes : Concludes start ending m)
    (hKeyed : start.engine.Keyed)
    (hStart : start.history = []) :
    ∃ r m₀, Looped start ending m r m₀ := by
  have hWhole
      {r : Except Stop Unit}
      {m : Moment}
      (hReaches : Reaches start (.after r) m) :
      m.history.beforeClosing = m.history := by
    have hNone := behindClosing?_eq hReaches.calls
    rw [hStart] at hNone
    rw [beforeClosing, hNone]
    rfl
  have hClosing
      {m₀ m : Moment}
      (hClosed : ClosedFrom m₀ m) :
      m.history.beforeClosing = m₀.history ∧
        m.engine.health.components =
          m₀.engine.health.components ∧
        ∀ p, m₀.engine.pendingOf p = [] →
          Uncommitted p m₀.history m.history := by
    refine ⟨?_, congrArg _ hClosed.health_eq, fun p hIdle => ?_⟩
    · rw [beforeClosing, behindClosing?_eq hClosed.calls]
      rfl
    · have hBegun :
          Uncommitted p m₀.history (.closing :: m₀.history) :=
        (Grows.refl _ _).cons id
      exact hBegun.trans (hClosed.idle p hIdle).2
  cases hConcludes with
  | unfinished hReaches =>
      have hLoop : Reaches start (.after (.ok ())) m := hReaches
      exact ⟨.ok (), m, hLoop, hWhole hLoop, rfl,
        .inl ⟨rfl, rfl⟩, fun p _ => .refl _ _⟩
  | @faulted m fault hReaches =>
      have hLoop :
          Reaches start (.after (.error (.fault fault))) m :=
        hReaches
      exact ⟨_, m, hLoop, hWhole hLoop, rfl,
        .inr ⟨_, rfl, .inl rfl⟩, fun p _ => .refl _ _⟩
  | @closed m why metrics hReaches =>
      rcases hReaches.closed hKeyed with ⟨m₀, hStopped, hClosed⟩
      rcases hClosing hClosed with ⟨hLoop, hComponents, hIdle⟩
      exact ⟨.error why, m₀, hStopped, hLoop, hComponents,
        .inr ⟨why, rfl, .inl rfl⟩, hIdle⟩
  | @overflowed m why metrics fault hReaches hFault =>
      rcases hReaches.closed hKeyed with ⟨m₀, hStopped, hClosed⟩
      rcases hClosing hClosed with ⟨hLoop, hComponents, hIdle⟩
      exact ⟨.error why, m₀, hStopped, hLoop, hComponents,
        .inr ⟨why, rfl, .inr ⟨fault, rfl, hFault⟩⟩, hIdle⟩

end FragmentSink
