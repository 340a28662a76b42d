import FragmentSink.Proofs.Engine.Steps

/-
  Logs of a run: histories in which every call names the
  partition it was made for.

  A clock, a storage and a timer cannot tell whom an engine
  serves, so the engine is run part by part, and the calls of
  each part are noted down for the partition it serves.  Apart
  from these notes the run is the same.

  Main declarations:
    * `Log`
    * `Engine.attributedSteps`
    * `run_attributedSteps`
    * `Log.heard`
    * `Log.callsFor_heard`
-/

namespace FragmentSink

variable {σ α β : Type}

------------------------------------------------------------
-- Logs
------------------------------------------------------------

/-
  What has happened, the newest event first, each with the
  partition it happened for, if it was a single one.
-/
abbrev Log := List (Option PartitionKey × Event)

namespace Log

/- The history of a log. -/
def events (l : Log) : History :=
  l.map Prod.snd

/- Events that happened for one owner. -/
def ownedBy (owner : Option PartitionKey) (h : History) : Log :=
  h.map (owner, ·)

@[simp] theorem events_append (l l' : Log) :
    (l ++ l').events = l.events ++ l'.events :=
  List.map_append

@[simp] theorem events_ownedBy
    (owner : Option PartitionKey)
    (h : History) :
    (ownedBy owner h).events = h := by
  rw [events, ownedBy, List.map_map]
  exact List.map_id h

end Log

/- A session without its notes on whom was served. -/
def Session.plain (s : Session (σ × Log)) :
    Session (σ × History) :=
  ⟨s.engine, s.world.1, s.world.2.events⟩

/- A session whose events beyond a log happened for an owner. -/
def Session.noted
    (owner : Option PartitionKey)
    (l : Log)
    (t : Session (σ × History)) : Session (σ × Log) :=
  ⟨t.engine, t.world.1,
    .ownedBy owner
      (t.world.2.take (t.world.2.length - l.length)) ++ l⟩

theorem Session.noted_eq
    {owner : Option PartitionKey}
    {l : Log}
    {t : Session (σ × History)}
    {es : History}
    (hEvents : t.world.2 = es ++ l.events) :
    t.noted owner l =
      ⟨t.engine, t.world.1, .ownedBy owner es ++ l⟩ := by
  simp [noted, hEvents, Log.events]

namespace Activity

/- An activity whose calls are noted down for an owner. -/
def servedFor
    (owner : Option PartitionKey)
    (x : Activity (σ × History) α) : Activity (σ × Log) α := do
  let s ← get
  let (r, t) := x.run.run s.plain
  set (t.noted owner s.world.2)
  MonadExcept.ofExcept r

theorem run_servedFor
    (owner : Option PartitionKey)
    (x : Activity (σ × History) α)
    (s : Session (σ × Log)) :
    (servedFor owner x).run.run s =
      ((x.run.run s.plain).1,
        (x.run.run s.plain).2.noted owner s.world.2) := by
  unfold servedFor
  rw [run_bind]
  change
    (match x.run.run s.plain with
      | (r, t) => do
          set (t.noted owner s.world.2)
          MonadExcept.ofExcept r : Activity _ _).run.run s = _
  rcases x.run.run s.plain with ⟨r, t⟩
  cases r <;> rfl

/- What it leads to is told by the events that it adds. -/
theorem leads_servedFor
    {owner : Option PartitionKey}
    {x : Activity (σ × History) α}
    {s : Session (σ × Log)}
    {Q : α → Session (σ × Log) → Prop}
    {E : Stop → Session (σ × Log) → Prop}
    (hLeads :
      x.Leads s.plain
        (fun a t => ∃ es,
          t.world.2 = es ++ s.world.2.events ∧
            Q a ⟨t.engine, t.world.1,
              .ownedBy owner es ++ s.world.2⟩)
        (fun why t => ∃ es,
          t.world.2 = es ++ s.world.2.events ∧
            E why ⟨t.engine, t.world.1,
              .ownedBy owner es ++ s.world.2⟩)) :
    (servedFor owner x).Leads s Q E := by
  unfold Leads at hLeads ⊢
  rw [run_servedFor]
  rcases hRun : x.run.run s.plain with ⟨r, t⟩
  rw [hRun] at hLeads
  cases r with
  | ok a =>
      rcases hLeads with ⟨es, hEvents, hGoesOn⟩
      rw [Session.noted_eq hEvents]
      exact hGoesOn
  | error why =>
      rcases hLeads with ⟨es, hEvents, hStops⟩
      rw [Session.noted_eq hEvents]
      exact hStops

end Activity

------------------------------------------------------------
-- Attributed Steps
------------------------------------------------------------

namespace Engine

open Activity

/- The partition that is served by what a poll brings. -/
def pollOwner : Poll → Option PartitionKey
| .fragment f => some f.partitionKey
| _ => none

/- One poll, and what is made of its answer. -/
def attributedPoll (world : World σ) :
    Activity (σ × Log) Unit := do
  let answer ← servedFor none (await world.recorded.poll)
  servedFor (pollOwner answer) (handlePoll world.recorded answer)

/- A tick for each of the listed partitions. -/
def attributedTicks (world : World σ) :
    List PartitionKey → Activity (σ × Log) Unit
| [] => pure ()
| p :: ps => do
    servedFor (some p) (tickOne world.recorded p)
    attributedTicks world ps

/- A tick for every worker. -/
def attributedTickAll (world : World σ) :
    Activity (σ × Log) Unit := do
  attributedTicks world
    (← servedFor none (visited world.recorded))

/- A step, of which every call is noted for whom it serves. -/
def attributedStep (world : World σ) :
    Activity (σ × Log) Unit := do
  attributedPoll world
  servedFor none (releaseRevoked world.recorded)
  attributedTickAll world
  servedFor none updateGauges

/- A number of such steps, up to the first that stops early. -/
def attributedSteps (world : World σ) :
    Nat → Activity (σ × Log) Unit
| 0 => pure ()
| steps + 1 => do
    attributedStep world
    attributedSteps world steps

end Engine

------------------------------------------------------------
-- Runs without Their Notes
------------------------------------------------------------

namespace Activity

/- Apart from its notes, an activity runs as another does. -/
def RunsAs
    (x : Activity (σ × Log) α)
    (y : Activity (σ × History) α) : Prop :=
  ∀ s, y.run.run s.plain =
    ((x.run.run s).1, (x.run.run s).2.plain)

theorem RunsAs.pure (a : α) :
    RunsAs (Pure.pure a : Activity (σ × Log) α) (Pure.pure a) :=
  fun _ => rfl

theorem RunsAs.bind
    {x : Activity (σ × Log) α}
    {y : Activity (σ × History) α}
    {f : α → Activity (σ × Log) β}
    {g : α → Activity (σ × History) β}
    (hFirst : x.RunsAs y)
    (hThen : ∀ a, (f a).RunsAs (g a)) :
    (x >>= f).RunsAs (y >>= g) := by
  intro s
  rw [run_bind, run_bind, hFirst s]
  rcases x.run.run s with ⟨r, t⟩
  cases r with
  | ok a => exact hThen a t
  | error why => rfl

/- An activity takes nothing from the history. -/
def Extends (x : Activity (σ × History) α) : Prop :=
  ∀ s : Session (σ × History),
    x.Leads s
      (fun _ t => s.world.2 <:+ t.world.2)
      (fun _ t => s.world.2 <:+ t.world.2)

theorem RunsAs.servedFor
    {x : Activity (σ × History) α}
    (hExtends : x.Extends)
    (owner : Option PartitionKey) :
    (x.servedFor owner).RunsAs x := by
  intro s
  have hSuffix :
      s.world.2.events <:+ (x.run.run s.plain).2.world.2 := by
    have hLeads := hExtends s.plain
    unfold Leads at hLeads
    split at hLeads
    case h_1 a t hRun => rw [hRun]; exact hLeads
    case h_2 why t hRun => rw [hRun]; exact hLeads
  rcases hSuffix with ⟨es, hEvents⟩
  rw [run_servedFor, Session.noted_eq hEvents.symm]
  simp only [Session.plain, Log.events_append,
    Log.events_ownedBy, hEvents]
  rfl

/- Moves take nothing from the history. -/
theorem Extends.of_moves
    {x : Activity (σ × History) Unit}
    (hEnds :
      ∀ s : Session (σ × History),
        x.Ends s (Chain Move s.moment)) :
    x.Extends :=
  fun s => (hEnds s).mono
    (fun _ _ hMoves => (Reaches.start.chain hMoves).extends)
    (fun _ _ hMoves => (Reaches.start.chain hMoves).extends)

end Activity

section Parts

open Activity

variable (world : World σ)

theorem extends_poll :
    (await world.recorded.poll).Extends := by
  intro s
  apply leads_noted_await .poll fun _ => rfl
  · intro answer t
    exact List.suffix_cons _ _
  · intro t
    exact List.suffix_cons _ _

/- What is made of an answer goes on from the poll. -/
theorem extends_handlePoll (answer : Poll) :
    (Engine.handlePoll world.recorded answer).Extends := by
  intro s
  cases answer with
  | quiet => exact List.suffix_rfl
  | fragment f =>
      unfold Engine.handlePoll
      rw [leads_bind, leads_update]
      exact ends_ingest world f s.engine s.world.1 s.world.2
        (R := fun _ m => s.world.2 <:+ m.history)
        (fun w m₁ r m' hReadied hRouted hWorked =>
          hReadied.calls.suffix.trans hWorked.calls.suffix)
        (fun w m₁ hReadied hMisrouted => hReadied.calls.suffix)
  | failed cause backoff goOn =>
      unfold Engine.handlePoll
      rw [leads_bind, leads_update]
      cases goOn with
      | false => exact List.suffix_rfl
      | true =>
          rw [if_pos rfl, leads_bind, leads_update]
          apply leads_noted_await (.sleep backoff) fun _ => rfl
          · intro answer t
            exact List.suffix_cons _ _
          · intro t
            exact List.suffix_cons _ _

theorem extends_visited :
    (Engine.visited world.recorded).Extends := by
  intro s
  unfold Engine.visited
  rw [leads_bind, leads_engine, leads_bind]
  apply leads_quiet_call fun _ => rfl
  intro order t
  exact List.suffix_rfl

theorem runsAs_attributedTicks (ps : List PartitionKey) :
    (Engine.attributedTicks world ps).RunsAs
      (Engine.tickEach world.recorded ps) := by
  induction ps with
  | nil => exact .pure ()
  | cons p ps ih =>
      exact (RunsAs.servedFor (.of_moves (ends_tickOne world p))
        (some p)).bind fun _ => ih

/- Apart from its notes, an attributed step is a step. -/
theorem runsAs_attributedStep :
    (Engine.attributedStep world).RunsAs
      (Engine.step world.recorded) := by
  have hPoll :
      (Engine.attributedPoll world).RunsAs
        (Engine.polled world.recorded) :=
    (RunsAs.servedFor (extends_poll world) none).bind
      fun answer =>
        .servedFor (extends_handlePoll world answer) _
  have hTicks :
      (Engine.attributedTickAll world).RunsAs
        (Engine.tickAll world.recorded) :=
    (RunsAs.servedFor (extends_visited world) none).bind
      fun ps => runsAs_attributedTicks world ps
  have hStep :
      Engine.step world.recorded =
        (do
          Engine.polled world.recorded
          Engine.releaseRevoked world.recorded
          Engine.tickAll world.recorded
          Engine.updateGauges) := by
    rw [← Engine.inTurn_parts]
    simp [inTurn, Engine.parts]
  rw [hStep]
  refine hPoll.bind fun _ => ?_
  refine (RunsAs.servedFor (.of_moves fun s =>
    (ends_releaseRevoked world s).chain) none).bind fun _ => ?_
  refine hTicks.bind fun _ => ?_
  exact .servedFor
    (.of_moves fun s => (ends_updateGauges s).chain) none

/- So attributed steps are the steps of the engine. -/
theorem runsAs_attributedSteps (steps : Nat) :
    (Engine.attributedSteps world steps).RunsAs
      (Engine.stepping world.recorded steps) := by
  induction steps with
  | zero => exact .pure ()
  | succ steps ih =>
      exact (runsAs_attributedStep world).bind fun _ => ih

end Parts

------------------------------------------------------------
-- What One Partition Hears
------------------------------------------------------------

namespace Log

variable {p q : PartitionKey}

/-
  What one partition hears of an entry: everything that
  happened for it.  Another partition's poll is a quiet one,
  and an assignment only says whether it lists the partition.
-/
def heardOf (p : PartitionKey) :
    Option PartitionKey × Event → Option Event
| (some q, e) => if q = p then some e else none
| (none, .poll (.done (.fragment f))) =>
    some (.poll (.done
      (if f.partitionKey = p then .fragment f else .quiet)))
| (none, .poll (.done _)) => some (.poll (.done .quiet))
| (none, .assigned answer) =>
    some (.assigned
      (answer.map fun ps => if p ∈ ps then [p] else []))
| (none, _) => none

/- What one partition hears of a log, the oldest event first. -/
def heard (p : PartitionKey) (l : Log) : List Event :=
  (l.filterMap (heardOf p)).reverse

@[simp] theorem heard_append (l l' : Log) :
    heard p (l ++ l') = heard p l' ++ heard p l := by
  simp [heard, List.filterMap_append]

@[simp] theorem heard_ownedBy_singleton
    (owner : Option PartitionKey)
    (e : Event) :
    heard p (ownedBy owner [e]) = (heardOf p (owner, e)).toList := by
  cases hHeard : heardOf p (owner, e) <;>
    simp [heard, ownedBy, hHeard]

/- A partition hears all that happened for it, and nothing of others. -/
theorem heard_ownedBy_self (h : History) :
    heard p (ownedBy (some p) h) = h.reverse := by
  simp [heard, ownedBy, List.filterMap_map, Function.comp_def,
    heardOf]

theorem heard_ownedBy_other
    (h : History)
    (hOther : q ≠ p) :
    heard p (ownedBy (some q) h) = [] := by
  simp [heard, ownedBy, List.filterMap_map, Function.comp_def,
    heardOf, hOther]

end Log

/- Whether an event is an upload, a commit or a rewind of a partition. -/
def Event.callsFor (p : PartitionKey) : Event → Bool
| .upload f _ => f.partitionKey = p
| .commit t _ => t.key = p
| .rewind q _ _ => q = p
| _ => false

/- The uploads, commits and rewinds of a partition, newest first. -/
def History.callsFor (p : PartitionKey) (h : History) : History :=
  h.filter (Event.callsFor p)

theorem Event.callsFor_eq_false
    {p : PartitionKey}
    {e : Event}
    (hAbout : ¬ e.About p) :
    e.callsFor p = false := by
  cases e with
  | upload => exact decide_eq_false hAbout
  | commit => exact decide_eq_false hAbout
  | rewind => exact decide_eq_false hAbout
  | _ => rfl

namespace Log

variable {p q : PartitionKey}

/- What is heard of an entry that did not happen for a partition. -/
theorem callsFor_heardOf
    {x : Option PartitionKey × Event}
    {e : Event}
    (hOther : x.1 ≠ some p)
    (hHeard : heardOf p x = some e) :
    e.callsFor p = false := by
  rcases x with ⟨_ | q, e'⟩
  · cases e' with
    | poll answer =>
        rcases answer with (_ | _) | _ <;> cases hHeard <;> rfl
    | assigned => cases hHeard; rfl
    | _ => cases hHeard
  · have hNe : q ≠ p := fun hEq => hOther (congrArg some hEq)
    rw [heardOf, if_neg hNe] at hHeard
    cases hHeard

/- Every upload, commit and rewind of a partition happened for it. -/
def Credits (p : PartitionKey) (l : Log) : Prop :=
  ∀ x ∈ l, x.1 ≠ some p → x.2.callsFor p = false

theorem Credits.append
    {l l' : Log}
    (hCredits : Credits p l)
    (hCredits' : Credits p l') :
    Credits p (l ++ l') :=
  List.forall_mem_append.mpr ⟨hCredits, hCredits'⟩

/- So a partition hears of each of them. -/
theorem Credits.callsFor_heard
    {l : Log}
    (hCredits : Credits p l) :
    l.events.callsFor p =
      History.callsFor p (heard p l).reverse := by
  rw [heard, List.reverse_reverse]
  induction l with
  | nil => rfl
  | cons x l ih =>
      rw [Credits, List.forall_mem_cons] at hCredits
      have hRest := ih hCredits.2
      simp only [events, History.callsFor] at hRest ⊢
      rw [List.map_cons, List.filter_cons, List.filterMap_cons]
      by_cases hOwn : x.1 = some p
      · have hHeard : heardOf p x = some x.2 := by
          rcases x with ⟨owner, e⟩
          cases hOwn
          exact if_pos rfl
        rw [hHeard, List.filter_cons, hRest]
      · rw [hCredits.1 hOwn, hRest]
        cases hHeard : heardOf p x with
        | none => rfl
        | some e =>
            rw [List.filter_cons, callsFor_heardOf hOwn hHeard]
            rfl

end Log

end FragmentSink
