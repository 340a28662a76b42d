import FragmentSink.Proofs.Engine.Moves

/-
  Engines that are fed a list of events.

  A replayed world answers each call with the answer of the
  next event, whoever asks and whatever for.  So which calls an
  engine makes there is up to the engine, and the calls show in
  what it records.  A worker that is fed what happened to it
  does the same once more.

  Main declarations:
    * `Replay.world`
    * `Replays`
    * `Worker.Flushed.replayed`
    * `Worker.Ticked.replayed`
-/

namespace FragmentSink

variable {α β : Type}

------------------------------------------------------------
-- Replayed Worlds
------------------------------------------------------------

/-
  The world that gives the answers of a list of events, one
  after the other.  A call that the next event does not answer
  leaves the list as it is.
-/
def Replay.world : World (List Event) where
  now
  | .clock now :: es => (now, es)
  | es => (⟨0⟩, es)
  ticks es := (0, es)
  upload _
  | .upload _ ending :: es => (ending, es)
  | es => (.dropped, es)
  armTimer _ es := es
  disarmTimer es := es
  poll
  | .poll answer :: es => (answer, es)
  | es => (.dropped, es)
  commitThrough _
  | .commit _ answer :: es => (answer, es)
  | es => (.dropped, es)
  rewind _ _
  | .rewind _ _ answer :: es => (answer, es)
  | es => (.ok (), es)
  assigned
  | .assigned answer :: es => (answer, es)
  | es => (.ok [], es)
  sleep _
  | .sleep _ answer :: es => (answer, es)
  | es => (.dropped, es)
  noise
  | .noise n :: es => (n, es)
  | es => (0, es)
  visitOrder ps es := (⟨ps, .refl ps⟩, es)
  limitShutdown _ es := es

/-
  Fed a list of events, an activity uses all of them up and
  makes the calls they are about, in their order.
-/
def Replays
    (x : Activity (List Event × History) α)
    (e : Engine)
    (es : List Event)
    (r : Except Stop α)
    (e' : Engine) : Prop :=
  ∀ later h,
    x.run.run ⟨e, es ++ later, h⟩ =
      (r, ⟨e', later, es.reverse ++ h⟩)

namespace Replays

variable {x : Activity (List Event × History) α}
variable {f : α → Activity (List Event × History) β}
variable {e e₁ e' : Engine}
variable {es fs : List Event}
variable {a : α}
variable {r : Except Stop β}

theorem bind
    (hFirst : Replays x e es (.ok a) e₁)
    (hThen : Replays (f a) e₁ fs r e') :
    Replays (x >>= f) e (es ++ fs) r e' := by
  intro later h
  rw [Activity.run_bind, List.append_assoc, hFirst]
  simp only
  rw [hThen, List.reverse_append, List.append_assoc]

/- An activity that hears nothing comes before another. -/
theorem silent
    (hFirst : Replays x e [] (.ok a) e₁)
    (hThen : Replays (f a) e₁ es r e') :
    Replays (x >>= f) e es r e' :=
  hFirst.bind hThen

/- So does one that hears one event. -/
theorem heard
    {event : Event}
    (hFirst : Replays x e [event] (.ok a) e₁)
    (hThen : Replays (f a) e₁ es r e') :
    Replays (x >>= f) e (event :: es) r e' :=
  hFirst.bind hThen

theorem stop
    {why : Stop}
    (hFirst : Replays x e es (.error why) e') :
    Replays (x >>= f) e es (.error why) e' := by
  intro later h
  rw [Activity.run_bind, hFirst]

end Replays

section Calls

open Activity

variable (e : Engine)

theorem replays_engine : Replays engine e [] (.ok e) e :=
  fun _ _ => rfl

theorem replays_update (f : Engine → Engine) :
    Replays (update f) e [] (.ok ()) (f e) :=
  fun _ _ => rfl

theorem replays_ticks :
    Replays (call Replay.world.recorded.ticks) e [] (.ok 0) e :=
  fun _ _ => rfl

theorem replays_poll (answer : Poll) :
    Replays (await Replay.world.recorded.poll) e
      [.poll (.done answer)] (.ok answer) e :=
  fun _ _ => rfl

theorem replays_now (now : Timestamp) :
    Replays (call Replay.world.recorded.now) e [.clock now]
      (.ok now) e :=
  fun _ _ => rfl

theorem replays_noise (n : UInt64) :
    Replays (call Replay.world.recorded.noise) e [.noise n]
      (.ok n) e :=
  fun _ _ => rfl

theorem replays_rewind
    (p : PartitionKey)
    (offset : Int64)
    (answer : Except Error Unit) :
    Replays (call (Replay.world.recorded.rewind p offset)) e
      [.rewind p offset answer] (.ok answer) e :=
  fun _ _ => rfl

theorem replays_sleep
    (span : Span)
    (answer : Awaited Unit) :
    Replays (await (Replay.world.recorded.sleep span)) e
      [.sleep span answer] answer.ending e := by
  intro later h
  cases answer <;> rfl

end Calls

------------------------------------------------------------
-- Flushes of a Worker Alone
------------------------------------------------------------

/- A flush with another duration ends in the same way. -/
def FlushEnd.timed (duration : Span) : FlushEnd → FlushEnd
| .committed b => .committed { b with duration := duration }
| answer => answer

/- The duration of every flush in a replayed world. -/
def Replay.duration : Span :=
  .between 0 0

theorem FlushEnd.timed_eq_dropped
    {duration : Span}
    {answer : FlushEnd} :
    answer.timed duration = .dropped ↔ answer = .dropped := by
  cases answer <;> simp [timed]

section Flushes

variable {batch : List Fragment}
variable {w w' : Worker}
variable {h h' : History}
variable {answer : FlushEnd}

/- A batch that is stored is stored again. -/
theorem commitAll_replayed_stored
    (batch : List Fragment)
    (later : List Event)
    (g : History) :
    commitAll Replay.world.toSurroundings.recorded batch
        ((storedRow batch).reverse ++ later, g) =
      (.durable, later, storedRow batch ++ g) := by
  induction batch generalizing g with
  | nil => rfl
  | cons f batch ih =>
      have hRest := ih (.upload f .stored :: g)
      simp only [storedRow, List.reverse_append,
        List.reverse_singleton, List.append_assoc,
        List.singleton_append]
      exact hRest

/- A commit that is fed its uploads makes them and ends the same. -/
theorem Uploaded.replayed
    {ending : CommitEnd}
    (hUploaded : Uploaded batch h ending h') :
    ∃ es, h' = es.reverse ++ h ∧
      ∀ later g,
        commitAll Replay.world.toSurroundings.recorded batch
            (es ++ later, g) =
          (ending, later, es.reverse ++ g) := by
  -- An upload that is not stored ends the commit of any batch.
  have hCut
      (before : List Fragment)
      (f : Fragment)
      (after : List Fragment)
      (bad : UploadEnd)
      (hBad :
        ∀ later g,
          commitAll Replay.world.toSurroundings.recorded
              (f :: after) (.upload f bad :: later, g) =
            (ending, later, .upload f bad :: g)) :
      ∃ es,
        .upload f bad :: (storedRow before ++ h) =
            es.reverse ++ h ∧
          ∀ later g,
            commitAll Replay.world.toSurroundings.recorded
                (before ++ f :: after) (es ++ later, g) =
              (ending, later, es.reverse ++ g) := by
    refine ⟨(storedRow before).reverse ++ [.upload f bad], ?_, ?_⟩
    · simp
    · intro later g
      rw [List.append_assoc,
        commitAll_append_of_durable
          (commitAll_replayed_stored before _ g)]
      simpa using hBad later (storedRow before ++ g)
  cases hUploaded with
  | durable =>
      refine ⟨(storedRow batch).reverse, by simp, ?_⟩
      intro later g
      rw [commitAll_replayed_stored, List.reverse_reverse]
  | failed before f after _ bad hBad =>
      apply hCut before f after bad
      intro later g
      cases bad with
      | refused => rfl
      | expired => rfl
      | stored => cases hBad
      | dropped => cases hBad
  | dropped before f after =>
      exact hCut before f after .dropped fun _ _ => rfl

theorem commitWithin_replayed
    (limit : Option Span)
    (batch : List Fragment)
    (t : List Event × History) :
    commitWithin Replay.world.toSurroundings.recorded limit batch
        t =
      commitAll Replay.world.toSurroundings.recorded batch t := by
  cases limit <;> rfl

/- So does a flush, but for how long it took. -/
theorem Worker.Flushed.replayed
    {reason : FlushReason}
    (hFlushed : w.Flushed reason h answer w' h') :
    ∃ es, h' = es.reverse ++ h ∧
      ∀ later g,
        w.flush Replay.world.toSurroundings.recorded reason
            (es ++ later, g) =
          (answer.timed Replay.duration, w', later,
            es.reverse ++ g) := by
  have hTicks (t : List Event × History) :
      Replay.world.toSurroundings.recorded.ticks t = (0, t) :=
    rfl
  cases hFlushed with
  | empty now hPending =>
      refine ⟨[.clock now], rfl, ?_⟩
      intro later g
      simp only [flush, flushBy, hPending]
      rfl
  | durable first rest duration now hPending =>
      have hStored :=
        @Uploaded.durable (first :: rest) h
      rcases hStored.replayed with ⟨es, hHistory, hRun⟩
      refine ⟨es ++ [.clock now], by simp [hHistory], ?_⟩
      intro later g
      simp only [flush, flushBy, hPending, hTicks,
        within_commitAll, commitWithin_replayed,
        List.append_assoc, hRun, List.reverse_append]
      rfl
  | failed first rest uploads now hPending hUploaded =>
      rcases hUploaded.replayed with ⟨es, rfl, hRun⟩
      refine ⟨es ++ [.clock now], by simp, ?_⟩
      intro later g
      simp only [flush, flushBy, hPending, hTicks,
        within_commitAll, commitWithin_replayed,
        List.append_assoc, hRun, List.reverse_append]
      rfl
  | dropped first rest uploads hPending hUploaded =>
      rcases hUploaded.replayed with ⟨es, rfl, hRun⟩
      refine ⟨es, rfl, ?_⟩
      intro later g
      simp only [flush, flushBy, hPending, hTicks,
        within_commitAll, commitWithin_replayed,
        hRun]
      rfl

/- So does a tick. -/
theorem Worker.Ticked.replayed
    (hTicked : w.Ticked h answer w' h') :
    ∃ es, h' = es.reverse ++ h ∧
      ∀ later g,
        w.tick Replay.world.toSurroundings.recorded
            (es ++ later, g) =
          (answer.timed Replay.duration, w', later,
            es.reverse ++ g) := by
  have hNow
      (now : Timestamp)
      (es : List Event)
      (g : History) :
      Replay.world.toSurroundings.recorded.now
          (.clock now :: es, g) =
        (now, es, .clock now :: g) :=
    rfl
  cases hTicked with
  | idle now hReason =>
      refine ⟨[.clock now], rfl, ?_⟩
      intro later g
      simp only [tick, tickBy, List.singleton_append, hNow, hReason]
      rfl
  | ready now reason hReason hFlushed =>
      rcases hFlushed.replayed with ⟨es, rfl, hRun⟩
      refine ⟨.clock now :: es, by simp, ?_⟩
      intro later g
      have hFlush := hRun later (.clock now :: g)
      rw [flush] at hFlush
      simp only [tick, tickBy, List.cons_append, hNow, hReason,
        hFlush]
      simp

end Flushes

end FragmentSink
