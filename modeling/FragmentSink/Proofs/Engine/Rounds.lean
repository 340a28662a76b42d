import FragmentSink.Proofs.Engine.FinalFlush

/-
  Rounds of visits, and what one visit does in a steady world.

  In a round every partition with a worker is visited once,
  for a tick or for the final flush.  In a steady world the
  clock stands still, the storage answers by the fragment
  alone and the source agrees to everything, so what a flush
  does depends on the worker alone.

  Main declarations:
    * `Round`
    * `InTurn`
    * `Round.ends_run`
    * `Event.Steady`
    * `Worker.Flushed.steady`
-/

namespace FragmentSink

variable {σ : Type}
variable {p q : PartitionKey}
variable {w w' : Worker}
variable {h h' h'' : History}
variable {m m₁ m' : Moment}
variable {r : Except Stop Unit}
variable {now : Timestamp}
variable {answer : Fragment → UploadEnd}

------------------------------------------------------------
-- Rounds
------------------------------------------------------------

/- The rounds an engine makes through its workers. -/
inductive Round where
| ticks
| finalFlush
deriving DecidableEq

namespace Round

/- Visit every partition with a worker. -/
def run : Round → World σ → Activity σ Unit
| .ticks, world => Engine.tickAll world
| .finalFlush, world => Engine.flushAll world

/- Visit the listed partitions. -/
def each :
    Round → World σ → List PartitionKey → Activity σ Unit
| .ticks, world => Engine.tickEach world
| .finalFlush, world => Engine.flushEach world

/- Visit one partition. -/
def one : Round → World σ → PartitionKey → Activity σ Unit
| .ticks, world => Engine.tickOne world
| .finalFlush, world => Engine.flushOne world

/- What the visit of a partition with a worker does. -/
def Serves :
    Round → PartitionKey → Worker → Moment →
      Except Stop Unit → Moment → Prop
| .ticks, p, w, m, r, m' => Worked p w m r m'
| .finalFlush, p, _, m, r, m' => FlushedOut p m r m'

/- What the visit of a partition does. -/
inductive Visits
    (round : Round)
    (p : PartitionKey)
    (m : Moment) : Except Stop Unit → Moment → Prop
| passed
    (hNone : m.engine.workers.get? p = none) :
    Visits round p m (.ok ()) m
| served
    {w : Worker}
    {r : Except Stop Unit}
    {m' : Moment}
    (hWorker : m.engine.workers.get? p = some w)
    (hServes : round.Serves p w m r m') :
    Visits round p m r m'

theorem ends_one
    (round : Round)
    (world : World σ)
    (p : PartitionKey)
    (s : Session (σ × History)) :
    (round.one world.recorded p).Ends s
      (round.Visits p s.moment) := by
  cases round with
  | ticks =>
      exact ends_tickOne_of world p s
        (fun hNone => .passed hNone)
        (fun w r m' hWorker hWorked => .served hWorker hWorked)
  | finalFlush =>
      apply ends_flushOne_of world p s (fun hNone => .passed hNone)
      intro r m' hOut
      have hWorker : ∃ w, s.engine.workers.get? p = some w := by
        cases hOut with
        | unstored hWorker => exact ⟨_, hWorker⟩
        | cut hWorker => exact ⟨_, hWorker⟩
        | acknowledged hWorker => exact ⟨_, hWorker⟩
        | unacknowledged _ hWorker => exact ⟨_, hWorker⟩
        | lost hWorker => exact ⟨_, hWorker⟩
      rcases hWorker with ⟨w, hWorker⟩
      exact .served hWorker hOut

end Round

/- The listed partitions are visited in turn, up to the first stop. -/
inductive InTurn (round : Round) :
    List PartitionKey → Moment → Except Stop Unit → Moment → Prop
| done (m : Moment) : InTurn round [] m (.ok ()) m
| go
    {p : PartitionKey}
    {ps : List PartitionKey}
    {m m₁ m' : Moment}
    {r : Except Stop Unit}
    (hVisit : round.Visits p m (.ok ()) m₁)
    (hRest : InTurn round ps m₁ r m') :
    InTurn round (p :: ps) m r m'
| stopped
    {p : PartitionKey}
    {ps : List PartitionKey}
    {m m' : Moment}
    {why : Stop}
    (hVisit : round.Visits p m (.error why) m') :
    InTurn round (p :: ps) m (.error why) m'

theorem Round.ends_each
    (round : Round)
    (world : World σ)
    (ps : List PartitionKey)
    (s : Session (σ × History)) :
    (round.each world.recorded ps).Ends s
      (InTurn round ps s.moment) := by
  induction ps generalizing s with
  | nil =>
      have hDone : InTurn round [] s.moment (.ok ()) s.moment :=
        .done _
      cases round <;> exact hDone
  | cons p ps ih =>
      have hCons :
          round.each world.recorded (p :: ps) =
            (do
              round.one world.recorded p
              round.each world.recorded ps) := by
        cases round <;> rfl
      rw [hCons]
      unfold Activity.Ends
      rw [Activity.leads_bind]
      apply Activity.Leads.mono (round.ends_one world p s)
      · intro _ t hVisit
        apply Activity.Leads.mono (ih t)
        · intro _ u hRest
          exact .go hVisit hRest
        · intro why u hRest
          exact .go hVisit hRest
      · intro why t hVisit
        exact .stopped hVisit

/- A round visits each partition with a worker once, in some order. -/
theorem Round.ends_run
    (round : Round)
    (world : World σ)
    (s : Session (σ × History)) :
    (round.run world.recorded).Ends s
      (fun r m =>
        ∃ ps : List PartitionKey,
          ps.Perm s.engine.workers.keys ∧
            InTurn round ps s.moment r m) := by
  have hRun :
      round.run world.recorded =
        (do
          round.each world.recorded
            (← Engine.visited world.recorded)) := by
    cases round <;> rfl
  rw [hRun]
  unfold Engine.visited Activity.Ends
  simp only [Activity.leads_bind]
  rw [Activity.leads_engine]
  apply Activity.leads_quiet_call fun _ => rfl
  intro order t
  apply Activity.Leads.mono
    (round.ends_each world order.1 ⟨s.engine, t, s.world.2⟩)
  · intro _ u hTurn
    exact ⟨order.1, order.2, hTurn⟩
  · intro why u hTurn
    exact ⟨order.1, order.2, hTurn⟩

------------------------------------------------------------
-- Visits Keep to Their Partition
------------------------------------------------------------

namespace Round

variable {round : Round}

theorem Visits.apart
    (hVisit : round.Visits p m r m')
    (hEngine : m.engine.Keyed)
    (hOther : p ≠ q) :
    Apart q m m' := by
  cases hVisit with
  | passed => exact ⟨rfl, rfl, rfl, rfl, .refl _ _⟩
  | served hWorker hServes =>
      cases round with
      | ticks =>
          exact Worked.apart hServes (hEngine p _ hWorker) hOther
      | finalFlush =>
          exact FlushedOut.apart hServes hEngine hOther

theorem Visits.keyed
    (hVisit : round.Visits p m r m')
    (hEngine : m.engine.Keyed) :
    m'.engine.Keyed := by
  cases hVisit with
  | passed => exact hEngine
  | served hWorker hServes =>
      cases round with
      | ticks =>
          exact Worked.keyed hServes hEngine (hEngine p _ hWorker)
      | finalFlush => exact FlushMove.keyed ⟨p, hServes⟩ hEngine

theorem Visits.extends
    (hVisit : round.Visits p m r m') :
    m.history <:+ m'.history := by
  cases hVisit with
  | passed => exact List.suffix_rfl
  | served hWorker hServes =>
      cases round with
      | ticks => exact (Worked.calls hServes).suffix
      | finalFlush => exact FlushMove.extends ⟨p, hServes⟩

theorem Visits.setup_eq
    (hVisit : round.Visits p m r m') :
    m'.engine.setup = m.engine.setup := by
  cases hVisit with
  | passed => rfl
  | served hWorker hServes =>
      cases round with
      | ticks => exact Worked.setup_eq hServes
      | finalFlush => cases hServes <;> rfl

end Round

theorem InTurn.extends
    {round : Round}
    {ps : List PartitionKey}
    (hTurn : InTurn round ps m r m') :
    m.history <:+ m'.history := by
  induction hTurn with
  | done => exact List.suffix_rfl
  | go hVisit _ ih => exact hVisit.extends.trans ih
  | stopped hVisit => exact hVisit.extends

------------------------------------------------------------
-- Steady Worlds
------------------------------------------------------------

/-
  The clock stands still, the storage answers by the fragment
  alone, and the source and the waits come to a good end.
-/
def Event.Steady
    (now : Timestamp)
    (answer : Fragment → UploadEnd) : Event → Prop
| .clock n => n = now
| .upload f ending => ending = answer f ∧ ending ≠ .dropped
| .commit _ answer => answer = .done (.ok ())
| .rewind _ _ answer => answer = .ok ()
| .sleep _ answer => answer = .done ()
| _ => True

instance
    (now : Timestamp)
    (answer : Fragment → UploadEnd) :
    DecidablePred (Event.Steady now answer)
| .clock n => inferInstanceAs (Decidable (n = now))
| .upload f ending =>
    inferInstanceAs
      (Decidable (ending = answer f ∧ ending ≠ .dropped))
| .commit _ a => inferInstanceAs (Decidable (a = .done (.ok ())))
| .rewind _ _ a => inferInstanceAs (Decidable (a = .ok ()))
| .sleep _ a => inferInstanceAs (Decidable (a = .done ()))
| .poll _ | .assigned _ | .noise _ | .closing | .started =>
    isTrue trivial

/- A history that goes on in a steady world. -/
abbrev Steadily
    (now : Timestamp)
    (answer : Fragment → UploadEnd) : History → History → Prop :=
  Grows (Event.Steady now answer)

/- What was added to a history is of the kind that was. -/
theorem Grows.forall_of_append
    {P : Event → Prop}
    {es : History}
    (hGrows : Grows P h (es ++ h)) :
    ∀ e ∈ es, P e := by
  rcases hGrows with ⟨es', hEvents, hEach⟩
  rw [List.append_cancel_right hEvents]
  exact hEach

/- So are its parts. -/
theorem Grows.split
    {P : Event → Prop}
    (hGrows : Grows P h h'')
    (hFirst : h <:+ h')
    (hThen : h' <:+ h'') :
    Grows P h h' ∧ Grows P h' h'' := by
  rcases hFirst with ⟨es, rfl⟩
  rcases hThen with ⟨es', rfl⟩
  rw [← List.append_assoc] at hGrows
  have hEach := List.forall_mem_append.mp hGrows.forall_of_append
  exact ⟨⟨es, rfl, hEach.2⟩, ⟨es', rfl, hEach.1⟩⟩

/- The latest event is. -/
theorem Grows.of_cons
    {P : Event → Prop}
    {e : Event}
    (hGrows : Grows P h (e :: h'))
    (hThen : h <:+ h') :
    P e ∧ Grows P h h' := by
  rcases hGrows.split hThen (List.suffix_cons e h') with
    ⟨hBefore, hLatest⟩
  have hHere : Grows P h' ([e] ++ h') := hLatest
  exact ⟨hHere.forall_of_append e List.mem_cons_self, hBefore⟩

------------------------------------------------------------
-- Flushes in a Steady World
------------------------------------------------------------

/- The uploads that a batch makes, newest first. -/
def attempted (answer : Fragment → UploadEnd) :
    List Fragment → History
| [] => []
| f :: fs =>
    if answer f = .stored then
      attempted answer fs ++ [.upload f .stored]
    else
      [.upload f (answer f)]

/- Whether all of a batch is stored. -/
def allStored
    (answer : Fragment → UploadEnd)
    (batch : List Fragment) : Bool :=
  batch.all (answer · = .stored)

theorem attempted_append
    {before after : List Fragment}
    (hStored : ∀ f ∈ before, answer f = .stored) :
    attempted answer (before ++ after) =
      attempted answer after ++ storedRow before := by
  induction before with
  | nil => simp [storedRow]
  | cons f before ih =>
      rw [List.forall_mem_cons] at hStored
      rw [List.cons_append, attempted, if_pos hStored.1,
        ih hStored.2, storedRow, List.append_assoc]

/- The answers decide which uploads are made, and how they end. -/
theorem Uploaded.steady
    {batch : List Fragment}
    {ending : CommitEnd}
    (hUploaded : Uploaded batch h ending h')
    (hSteady : Steadily now answer h h') :
    h' = attempted answer batch ++ h ∧
      (ending = .durable ∧ allStored answer batch = true ∨
        ending = .failed ∧ allStored answer batch = false) := by
  have hRow
      {fs : List Fragment}
      (hEach :
        ∀ e ∈ storedRow fs, Event.Steady now answer e) :
      ∀ f ∈ fs, answer f = .stored :=
    fun f hf => (hEach _ (mem_storedRow hf)).1.symm
  cases hUploaded with
  | durable =>
      have hStored := hRow hSteady.forall_of_append
      have hAll :
          attempted answer (batch ++ []) = [] ++ storedRow batch :=
        attempted_append hStored
      rw [List.append_nil] at hAll
      refine ⟨by rw [hAll]; rfl, .inl ⟨rfl, ?_⟩⟩
      exact List.all_eq_true.mpr fun f hf =>
        decide_eq_true (hStored f hf)
  | failed before f after _ ending hEnding =>
      rw [← List.cons_append] at hSteady
      have hEach :=
        List.forall_mem_cons.mp hSteady.forall_of_append
      have hStored := hRow hEach.2
      have hAnswer : answer f = ending := hEach.1.1.symm
      have hNot : answer f ≠ .stored :=
        hAnswer ▸ hEnding.ne_stored
      refine ⟨?_, .inr ⟨rfl, ?_⟩⟩
      · rw [attempted_append hStored, attempted, if_neg hNot,
          hAnswer]
        rfl
      · rw [allStored, List.all_append, List.all_cons,
          decide_eq_false hNot, Bool.false_and, Bool.and_false]
  | dropped before f after =>
      rw [← List.cons_append] at hSteady
      have hEach :=
        List.forall_mem_cons.mp hSteady.forall_of_append
      exact absurd rfl hEach.1.2

theorem callsFor_attempted
    {batch : List Fragment}
    (hKeyed : ∀ f ∈ batch, f.partitionKey = p) :
    History.callsFor p (attempted answer batch) =
      attempted answer batch := by
  induction batch with
  | nil => rfl
  | cons f batch ih =>
      rw [List.forall_mem_cons] at hKeyed
      rw [attempted]
      split
      · rw [History.callsFor_append, ih hKeyed.2,
          History.callsFor_upload .stored hKeyed.1]
        rfl
      · exact History.callsFor_upload _ hKeyed.1

/-
  What a flush does in a steady world: how it ends, the worker
  it leaves and the uploads it makes.
-/
inductive SteadyFlush
    (now : Timestamp)
    (answer : Fragment → UploadEnd)
    (w : Worker)
    (reason : FlushReason) :
    FlushEnd → Worker → History → Prop
| empty
    (hPending : w.pending = []) :
    SteadyFlush now answer w reason .nothing (w.renewAt now) []
| durable
    (first : Fragment)
    (rest : List Fragment)
    (duration : Span)
    (hPending : w.pending = first :: rest)
    (hStored : allStored answer (first :: rest) = true) :
    SteadyFlush now answer w reason
      (.committed (w.describe first rest reason duration))
      (w.afterCommit now) (attempted answer (first :: rest))
| failed
    (first : Fragment)
    (rest : List Fragment)
    (hPending : w.pending = first :: rest)
    (hFailed : allStored answer (first :: rest) = false) :
    SteadyFlush now answer w reason .failed
      (w.afterFailure first now)
      (attempted answer (first :: rest))

theorem Worker.Flushed.steady
    {reason : FlushReason}
    {ending : FlushEnd}
    (hFlushed : w.Flushed reason h ending w' h')
    (hKeyed : w.Keyed p)
    (hSteady : Steadily now answer h h') :
    ∃ uploads,
      SteadyFlush now answer w reason ending w' uploads ∧
        h'.callsFor p = uploads ++ h.callsFor p := by
  have hOwn := hKeyed.pending
  cases hFlushed with
  | empty n hPending =>
      cases (hSteady.of_cons List.suffix_rfl).1
      exact ⟨[], .empty hPending, rfl⟩
  | durable first rest duration n hPending =>
      rw [hPending] at hOwn
      rcases hSteady.of_cons (List.suffix_append _ _) with
        ⟨hNow, hUploads⟩
      cases hNow
      rcases (Uploaded.durable (first :: rest) h).steady hUploads
        with ⟨hRow, ⟨-, hStored⟩ | ⟨hFailed, -⟩⟩
      · refine ⟨_, .durable first rest duration hPending hStored,
          ?_⟩
        rw [hRow]
        change History.callsFor p (attempted _ _ ++ h) = _
        rw [History.callsFor_append, callsFor_attempted hOwn]
      · cases hFailed
  | failed first rest uploads n hPending hUploaded =>
      rw [hPending] at hOwn
      have hGrows : Grows (fun _ => True) h uploads :=
        hUploaded.grows fun _ _ _ => trivial
      rcases hSteady.of_cons hGrows.suffix with ⟨hNow, hUploads⟩
      cases hNow
      rcases hUploaded.steady hUploads with
        ⟨hRow, ⟨hDurable, -⟩ | ⟨-, hFailed⟩⟩
      · cases hDurable
      · refine ⟨_, .failed first rest hPending hFailed, ?_⟩
        rw [hRow]
        change History.callsFor p (attempted _ _ ++ h) = _
        rw [History.callsFor_append, callsFor_attempted hOwn]
  | dropped first rest uploads hPending hUploaded =>
      rcases hUploaded.steady hSteady with
        ⟨-, ⟨hDurable, -⟩ | ⟨hFailed, -⟩⟩
      · cases hDurable
      · cases hFailed

end FragmentSink
