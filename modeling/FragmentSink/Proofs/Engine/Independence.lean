import FragmentSink.Proofs.Engine.Attribution
import FragmentSink.Proofs.Engine.Copies
import FragmentSink.Proofs.Script

/-
  Partitions do not interfere.

  A run that serves many partitions is followed, for one of
  them, by an engine that only hears what happened for it.
  That engine makes the parts of the same steps and stops where
  the other does, or keeps going where another partition was
  the reason.

  Main declarations:
    * `Shadowed`
    * `Activity.ShadowedBy`
    * `alone_of_run`
-/

namespace FragmentSink

variable {σ α : Type}
variable {p q : PartitionKey}

------------------------------------------------------------
-- Activities in Turn
------------------------------------------------------------

section InTurn

variable {x : Activity (List Event × History) Unit}
variable {xs ys : List (Activity (List Event × History) Unit)}
variable {e e₁ e' : Engine}
variable {es fs : List Event}
variable {r : Except Stop Unit}

theorem Activity.inTurn_append
    (xs ys : List (Activity σ Unit)) :
    inTurn (xs ++ ys) = (do inTurn xs; inTurn ys) := by
  induction xs with
  | nil => simp [inTurn]
  | cons x xs ih => simp [inTurn, ih]

theorem Replays.inTurn_append
    (hFirst : Replays (Activity.inTurn xs) e es (.ok ()) e₁)
    (hThen : Replays (Activity.inTurn ys) e₁ fs r e') :
    Replays (Activity.inTurn (xs ++ ys)) e (es ++ fs) r e' := by
  rw [Activity.inTurn_append]
  exact hFirst.bind hThen

theorem Replays.inTurn_singleton
    (hOne : Replays x e es r e') :
    Replays (Activity.inTurn [x]) e es r e' := by
  have hAlone : Activity.inTurn [x] = x := by
    simp [Activity.inTurn]
  rw [hAlone]
  exact hOne

end InTurn

------------------------------------------------------------
-- Engines That Follow
------------------------------------------------------------

/-
  From one log to a longer one, an engine with a partition to
  itself follows: it makes the given activities, or where the
  run stopped the first of them, hears what was added for the
  partition, and ends with the lane that the run left behind.
-/
inductive Shadowed
    (p : PartitionKey)
    (xs : List (Activity (List Event × History) Unit))
    (alone : Engine)
    (l : Log)
    (r : Except Stop Unit)
    (e' : Engine)
    (l' : Log) : Prop
| intro
    (new : Log)
    (made : List (Activity (List Event × History) Unit))
    (r' : Except Stop Unit)
    (alone' : Engine)
    (hLog : l' = new ++ l)
    (hMade : made <+: xs)
    (hAll : r = .ok () → made = xs)
    (hEnd : r' = .ok () ∨ r' = r)
    (hReplays :
      Replays (Activity.inTurn made) alone (Log.heard p new)
        r' alone')
    (hMirrors : Mirrors p e' alone')
    (hKeyed : e'.Keyed)
    (hCredits : new.Credits p)

namespace Shadowed

variable {x : Activity (List Event × History) Unit}
variable {xs ys : List (Activity (List Event × History) Unit)}
variable {alone alone' : Engine}
variable {e₁ e' : Engine}
variable {l l₁ l' new : Log}
variable {r r' : Except Stop Unit}

/- What a partition does not hear of, its engine need not follow. -/
theorem unheard
    (new : Log)
    (hHeard : Log.heard p new = [])
    (hMirrors : Mirrors p e' alone)
    (hKeyed : e'.Keyed)
    (hCredits : new.Credits p) :
    Shadowed p [] alone l r e' (new ++ l) := by
  refine .intro new [] (.ok ()) alone rfl List.prefix_rfl
    (fun _ => rfl) (.inl rfl) ?_ hMirrors hKeyed hCredits
  rw [hHeard]
  exact fun _ _ => rfl

/- One activity may follow what it hears of. -/
theorem single
    (new : Log)
    (hEnd : r' = .ok () ∨ r' = r)
    (hReplays : Replays x alone (Log.heard p new) r' alone')
    (hMirrors : Mirrors p e' alone')
    (hKeyed : e'.Keyed)
    (hCredits : new.Credits p) :
    Shadowed p [x] alone l r e' (new ++ l) :=
  .intro new [x] r' alone' rfl List.prefix_rfl (fun _ => rfl)
    hEnd hReplays.inTurn_singleton hMirrors hKeyed hCredits

/- Where a run stops, there is no need for what would come next. -/
theorem stop
    {why : Stop}
    (hFirst : Shadowed p xs alone l (.error why) e' l') :
    Shadowed p (xs ++ ys) alone l (.error why) e' l' := by
  rcases hFirst with
    ⟨new, made, r', alone', hLog, hMade, -, hEnd, hReplays,
      hMirrors, hKeyed, hCredits⟩
  exact .intro new made r' alone' hLog
    (hMade.trans (List.prefix_append xs ys)) nofun hEnd
    hReplays hMirrors hKeyed hCredits

/- So the engine alone may make none of it. -/
theorem stopped
    {why : Stop}
    (hFirst : Shadowed p [] alone l (.error why) e' l') :
    Shadowed p xs alone l (.error why) e' l' :=
  hFirst.stop

theorem trans
    (hFirst : Shadowed p xs alone l (.ok ()) e₁ l₁)
    (hThen :
      ∀ alone₁, Mirrors p e₁ alone₁ → e₁.Keyed →
        Shadowed p ys alone₁ l₁ r e' l') :
    Shadowed p (xs ++ ys) alone l r e' l' := by
  rcases hFirst with
    ⟨new, made, r₁, alone₁, rfl, -, hAll, hEnd, hReplays,
      hMirrors, hKeyed, hCredits⟩
  cases hAll rfl
  cases or_self_iff.mp hEnd
  rcases hThen alone₁ hMirrors hKeyed with
    ⟨new', made', r', alone', rfl, hMade', hAll', hEnd',
      hReplays', hMirrors', hKeyed', hCredits'⟩
  refine .intro (new' ++ new) (xs ++ made') r' alone'
    (List.append_assoc ..).symm
    ((List.prefix_append_right_inj xs).mpr hMade')
    (fun hOk => congrArg (xs ++ ·) (hAll' hOk)) hEnd' ?_
    hMirrors' hKeyed' (hCredits'.append hCredits)
  rw [Log.heard_append]
  exact hReplays.inTurn_append hReplays'

end Shadowed

/-
  A part of a run that serves one owner is followed, from an
  earlier log on.
-/
def ShadowedPart
    (p : PartitionKey)
    (xs : List (Activity (List Event × History) Unit))
    (alone : Engine)
    (start : Log)
    (owner : Option PartitionKey)
    (l : Log)
    (r : Except Stop Unit)
    (m : Moment) : Prop :=
  ∃ es,
    m.history = es ++ l.events ∧
      Shadowed p xs alone start r m.engine (.ownedBy owner es ++ l)

/- What a part leads to is followed once its calls are noted. -/
theorem ShadowedPart.leads
    {x : Activity (σ × History) Unit}
    {xs : List (Activity (List Event × History) Unit)}
    {alone : Engine}
    {start : Log}
    {owner : Option PartitionKey}
    {s : Session (σ × Log)}
    (hEnds :
      x.Ends s.plain
        (ShadowedPart p xs alone start owner s.world.2)) :
    (x.servedFor owner).Leads s
      (fun _ t =>
        Shadowed p xs alone start (.ok ()) t.engine t.world.2)
      (fun why t =>
        Shadowed p xs alone start (.error why) t.engine
          t.world.2) :=
  Activity.leads_servedFor hEnds

/- From any session on, an activity of many is followed by some of one. -/
def Activity.ShadowedBy
    (p : PartitionKey)
    (x : Activity (σ × Log) Unit)
    (xs : List (Activity (List Event × History) Unit)) : Prop :=
  ∀ s alone, s.engine.Keyed → Mirrors p s.engine alone →
    x.Leads s
      (fun _ t =>
        Shadowed p xs alone s.world.2 (.ok ()) t.engine t.world.2)
      (fun why t =>
        Shadowed p xs alone s.world.2 (.error why) t.engine
          t.world.2)

/- What follows one activity goes on with what follows the next. -/
theorem Shadowed.leads
    {y : Activity (σ × Log) Unit}
    {xs ys : List (Activity (List Event × History) Unit)}
    {alone : Engine}
    {l : Log}
    {t : Session (σ × Log)}
    (hFirst :
      Shadowed p xs alone l (.ok ()) t.engine t.world.2)
    (hThen : y.ShadowedBy p ys) :
    y.Leads t
      (fun _ u =>
        Shadowed p (xs ++ ys) alone l (.ok ()) u.engine u.world.2)
      (fun why u =>
        Shadowed p (xs ++ ys) alone l (.error why) u.engine
          u.world.2) := by
  unfold Activity.Leads
  rcases hRun : y.run.run t with ⟨r, u⟩
  cases r with
  | ok =>
      exact hFirst.trans fun alone₁ hMirrors hKeyed =>
        (hThen t alone₁ hKeyed hMirrors).of_run_ok hRun
  | error why =>
      exact hFirst.trans fun alone₁ hMirrors hKeyed =>
        (hThen t alone₁ hKeyed hMirrors).of_run_error hRun

theorem Activity.ShadowedBy.bind
    {x y : Activity (σ × Log) Unit}
    {xs ys : List (Activity (List Event × History) Unit)}
    (hFirst : x.ShadowedBy p xs)
    (hThen : y.ShadowedBy p ys) :
    Activity.ShadowedBy p (do x; y) (xs ++ ys) := by
  intro s alone hKeyed hMirrors
  rw [Activity.leads_bind]
  apply (hFirst s alone hKeyed hMirrors).mono
  · intro _ t hShadowed
    exact hShadowed.leads hThen
  · intro why t hShadowed
    exact hShadowed.stop

------------------------------------------------------------
-- Polls
------------------------------------------------------------

/- Nothing is called for a partition on behalf of another. -/
theorem credits_ownedBy
    {owner : Option PartitionKey}
    {es : History}
    (hBeside :
      owner = some p ∨ ∀ e ∈ es, e.callsFor p = false) :
    (Log.ownedBy owner es).Credits p := by
  intro x hMember hOther
  rcases List.mem_map.mp hMember with ⟨e, hEvent, rfl⟩
  rcases hBeside with hOwn | hNone
  · exact absurd hOwn hOther
  · exact hNone e hEvent

theorem credits_ownedBy_of_beside
    {owner : Option PartitionKey}
    {h es : History}
    (hBeside : Beside p h (es ++ h)) :
    (Log.ownedBy owner es).Credits p := by
  rcases hBeside with ⟨es', hEvents, hAbout⟩
  cases List.append_cancel_right hEvents
  exact credits_ownedBy (.inr fun e hEvent =>
    Event.callsFor_eq_false (hAbout e hEvent))

section Polls

variable {s : Session (σ × Log)}
variable {alone : Engine}
variable {answer : Poll}
variable {f : Fragment}
variable {w : Worker}
variable {m₁ m' : Moment}
variable {r : Except Stop Unit}

/- What a poll leads to for others, alone it is a quiet one. -/
theorem Shadowed.quiet
    {owner : Option PartitionKey}
    {es : History}
    {e' : Engine}
    (hMirrors : Mirrors p s.engine alone)
    (hQuiet :
      Log.heardOf p (none, .poll (.done answer)) =
        some (.poll (.done .quiet)))
    (hUnheard : Log.heard p (.ownedBy owner es) = [])
    (hLane : e'.lane p = s.engine.lane p)
    (hKeyed : e'.Keyed)
    (hCredits : (Log.ownedBy owner es).Credits p) :
    Shadowed p [Engine.polled Replay.world.recorded] alone
      s.world.2 r e'
      (.ownedBy owner es ++
        (.ownedBy none [.poll (.done answer)] ++ s.world.2)) := by
  rw [← List.append_assoc]
  refine .single _ (.inl rfl) ?_
    (hMirrors.of_lanes_eq hLane fun _ => rfl) hKeyed
    (hCredits.append (credits_ownedBy (.inr ?_)))
  · rw [Log.heard_append, hUnheard, Log.heard_ownedBy_singleton,
      hQuiet]
    exact (replays_poll _ .quiet).heard fun _ _ => rfl
  · exact List.forall_mem_singleton.mpr rfl

/- The fragment of a partition is taken in alone. -/
theorem shadowed_delivered
    (hMirrors : Mirrors p s.engine alone)
    (hKeyed : s.engine.Keyed)
    (hKey : f.partitionKey = p)
    (hReadied :
      Readied f.partitionKey
        ⟨s.engine.taking f,
          .poll (.done (.fragment f)) :: s.world.2.events⟩ w m₁)
    (hRouted : f.partitionKey = w.partition)
    (hWorked : Worked f.partitionKey (w.append f) m₁ r m') :
    ShadowedPart p [Engine.polled Replay.world.recorded] alone
      s.world.2 (some f.partitionKey)
      (.ownedBy none [.poll (.done (.fragment f))] ++ s.world.2)
      r m' := by
  have hReady := hReadied.keyed hKeyed
  have hAppended := hReady.1.append hRouted
  subst hKey
  rcases copies_ingest
      (m := ⟨s.engine,
        .poll (.done (.fragment f)) :: s.world.2.events⟩)
      rfl hReadied hAppended hWorked hMirrors with
    ⟨es, alone', hHistory, hReplays, hMirrors'⟩
  refine ⟨es.reverse, hHistory, ?_⟩
  rw [← List.append_assoc]
  refine .single _ (.inr rfl) ?_ hMirrors'
    (hWorked.keyed hReady.2 hAppended)
    ((credits_ownedBy (.inl rfl)).append
      (credits_ownedBy (.inr ?_)))
  · have hHeard :
        Log.heardOf f.partitionKey
            (none, .poll (.done (.fragment f))) =
          some (.poll (.done (.fragment f))) := by
      simp [Log.heardOf]
    rw [Log.heard_append, Log.heard_ownedBy_self,
      List.reverse_reverse, Log.heard_ownedBy_singleton, hHeard]
    exact (replays_poll _ (.fragment f)).heard hReplays
  · exact List.forall_mem_singleton.mpr rfl

/- The fragment of another partition is not heard of. -/
theorem shadowed_delivered_other
    (hMirrors : Mirrors p s.engine alone)
    (hKeyed : s.engine.Keyed)
    (hKey : f.partitionKey ≠ p)
    (hReadied :
      Readied f.partitionKey
        ⟨s.engine.taking f,
          .poll (.done (.fragment f)) :: s.world.2.events⟩ w m₁)
    (hRouted : f.partitionKey = w.partition)
    (hWorked : Worked f.partitionKey (w.append f) m₁ r m') :
    ShadowedPart p [Engine.polled Replay.world.recorded] alone
      s.world.2 (some f.partitionKey)
      (.ownedBy none [.poll (.done (.fragment f))] ++ s.world.2)
      r m' := by
  have hReady := hReadied.keyed hKeyed
  have hAppended := hReady.1.append hRouted
  have hApart :=
    (hReadied.apart hKey).trans (hWorked.apart hAppended hKey)
  have hSetup := hWorked.setup_eq.trans hReadied.setup_eq
  rcases hApart.events with ⟨es, hEvents, -⟩
  refine ⟨es, hEvents, .quiet hMirrors ?_ ?_ ?_ ?_ ?_⟩
  · simp [Log.heardOf, hKey]
  · exact Log.heard_ownedBy_other es hKey
  · exact (hApart.lane_eq hSetup).trans
      ((Engine.changes_taking rfl).other s.engine p hKey)
  · exact hWorked.keyed hReady.2 hAppended
  · exact credits_ownedBy_of_beside (hEvents ▸ hApart.events)

/- A poll of one partition is a quiet poll for every other. -/
theorem shadowedBy_attributedPoll (world : World σ) :
    (Engine.attributedPoll world).ShadowedBy p
      [Engine.polled Replay.world.recorded] := by
  intro s alone hKeyed hMirrors
  unfold Engine.attributedPoll
  rw [Activity.leads_bind]
  apply Activity.leads_servedFor
  apply Activity.leads_noted_await .poll fun _ => rfl
  · intro answer t
    refine ⟨[.poll (.done answer)], rfl, ?_⟩
    apply ShadowedPart.leads
    have hNothing : (Log.ownedBy none []).Credits p :=
      List.forall_mem_nil _
    cases answer with
    | quiet =>
        exact ⟨[], rfl,
          .quiet hMirrors rfl rfl rfl hKeyed hNothing⟩
    | fragment f =>
        unfold Engine.handlePoll Activity.Ends
        rw [Activity.leads_bind, Activity.leads_update]
        refine ends_ingest world f s.engine t _
          (R := ShadowedPart p _ alone s.world.2
            (some f.partitionKey) _) ?_ ?_
        · intro w m₁ r m' hReadied hRouted hWorked
          by_cases hKey : f.partitionKey = p
          · exact shadowed_delivered hMirrors hKeyed hKey
              hReadied hRouted hWorked
          · exact shadowed_delivered_other hMirrors hKeyed hKey
              hReadied hRouted hWorked
        · intro w m₁ hReadied hMisrouted
          have hWorker := (hReadied.keyed hKeyed).1
          exact absurd hWorker.partition.symm hMisrouted
    | failed cause backoff goOn =>
        unfold Engine.handlePoll Activity.Ends
        rw [Activity.leads_bind, Activity.leads_update]
        cases goOn with
        | false =>
            exact ⟨[], rfl,
              .quiet hMirrors rfl rfl rfl hKeyed hNothing⟩
        | true =>
            have hSlept (answer : Awaited Unit) :
                (Log.ownedBy none [.sleep backoff answer]).Credits
                  p :=
              List.forall_mem_singleton.mpr fun _ => rfl
            rw [if_pos rfl, Activity.leads_bind,
              Activity.leads_update]
            apply Activity.leads_noted_await (.sleep backoff)
              fun _ => rfl
            · intro answer u
              exact ⟨[.sleep backoff (.done answer)], rfl,
                .quiet hMirrors rfl rfl rfl hKeyed
                  (hSlept (.done answer))⟩
            · intro u
              exact ⟨[.sleep backoff .dropped], rfl,
                .quiet hMirrors rfl rfl rfl hKeyed
                  (hSlept .dropped)⟩
  · intro t
    refine ⟨[.poll .dropped], rfl, ?_⟩
    exact .stopped (.unheard _ rfl hMirrors hKeyed
      (List.forall_mem_singleton.mpr fun _ => rfl))

end Polls

------------------------------------------------------------
-- Assignments, Ticks and Gauges
------------------------------------------------------------

section Parts

variable (world : World σ)

/- An assignment is followed by whether it lists the partition. -/
theorem shadowedBy_releaseRevoked :
    ((Engine.releaseRevoked world.recorded).servedFor
        none).ShadowedBy p
      [Engine.releaseRevoked Replay.world.recorded] := by
  intro s alone hKeyed hMirrors
  apply ShadowedPart.leads
  unfold Engine.releaseRevoked Activity.Ends
  rw [Activity.leads_bind]
  apply Activity.leads_noted_call .assigned fun _ => rfl
  intro answer t
  have hCredits :
      (Log.ownedBy none [.assigned answer]).Credits p :=
    List.forall_mem_singleton.mpr fun _ => rfl
  cases answer with
  | error cause =>
      refine ⟨[.assigned (.error cause)], rfl, ?_⟩
      exact .single _ (.inl rfl) (fun _ _ => rfl)
        hMirrors hKeyed hCredits
  | ok ps =>
      refine ⟨[.assigned (.ok ps)], rfl, ?_⟩
      have hSame :
          ps.contains p =
            (if p ∈ ps then [p] else []).contains p := by
        by_cases hListed : p ∈ ps <;> simp [hListed]
      exact .single _ (.inl rfl) (fun _ _ => rfl)
        (hMirrors.keepOnly hSame)
        ((Move.released (m := s.plain.moment) ps).keyed hKeyed)
        hCredits

/- The tick of a partition is followed by a tick of everything. -/
theorem shadowedBy_tickOne :
    ((Engine.tickOne world.recorded p).servedFor
        (some p)).ShadowedBy p
      [Engine.tickAll Replay.world.recorded] := by
  intro s alone hKeyed hMirrors
  apply ShadowedPart.leads
  apply ends_tickOne_of
  · intro hNone
    refine ⟨[], rfl, ?_⟩
    exact .single _ (.inl rfl)
      (replays_tickAll_idle (m := s.plain.moment) hNone hMirrors)
      hMirrors hKeyed (List.forall_mem_nil _)
  · intro w r m' hFound hWorked
    have hWorker := hKeyed p w hFound
    rcases copies_tickAll (m := s.plain.moment) hFound hWorker
        hWorked hMirrors with
      ⟨es, alone', hHistory, hReplays, hMirrors'⟩
    refine ⟨es.reverse, hHistory, ?_⟩
    refine .single _ (.inr rfl) ?_ hMirrors'
      (hWorked.keyed hKeyed hWorker)
      (credits_ownedBy (.inl rfl))
    rw [Log.heard_ownedBy_self, List.reverse_reverse]
    exact hReplays

/- The tick of another partition is not heard of. -/
theorem shadowedBy_tickOne_other (hOther : q ≠ p) :
    ((Engine.tickOne world.recorded q).servedFor
        (some q)).ShadowedBy p [] := by
  intro s alone hKeyed hMirrors
  apply ShadowedPart.leads
  apply ends_tickOne_of
  · intro hNone
    exact ⟨[], rfl,
      .unheard _ rfl hMirrors hKeyed (List.forall_mem_nil _)⟩
  · intro w r m' hFound hWorked
    have hWorker := hKeyed q w hFound
    have hApart := hWorked.apart hWorker hOther
    have hLane := hApart.lane_eq hWorked.setup_eq
    rcases hApart.events with ⟨es, hEvents, -⟩
    refine ⟨es, hEvents, ?_⟩
    exact .unheard _ (Log.heard_ownedBy_other es hOther)
      (hMirrors.of_lanes_eq hLane fun _ => rfl)
      (hWorked.keyed hKeyed hWorker)
      (credits_ownedBy_of_beside (hEvents ▸ hApart.events))

theorem shadowedBy_ticks_other
    {ps : List PartitionKey}
    (hOther : p ∉ ps) :
    (Engine.attributedTicks world ps).ShadowedBy p [] := by
  induction ps with
  | nil =>
      intro s alone hKeyed hMirrors
      exact Shadowed.unheard [] rfl hMirrors hKeyed
        (List.forall_mem_nil _)
  | cons q ps ih =>
      rw [List.mem_cons, not_or] at hOther
      exact (shadowedBy_tickOne_other world
        (Ne.symm hOther.1)).bind (ih hOther.2)

theorem attributedTicks_append
    (ps qs : List PartitionKey) :
    Engine.attributedTicks world (ps ++ qs) =
      (do
        Engine.attributedTicks world ps
        Engine.attributedTicks world qs) := by
  induction ps with
  | nil => simp [Engine.attributedTicks]
  | cons p ps ih => simp [Engine.attributedTicks, ih]

/- Where each partition is visited once, so is the one that is followed. -/
theorem shadowedBy_ticks
    {ps : List PartitionKey}
    (hNodup : ps.Nodup)
    (hListed : p ∈ ps) :
    (Engine.attributedTicks world ps).ShadowedBy p
      [Engine.tickAll Replay.world.recorded] := by
  rcases List.append_of_mem hListed with ⟨before, after, rfl⟩
  rw [List.nodup_append, List.nodup_cons] at hNodup
  have hBefore : p ∉ before := fun hMember =>
    hNodup.2.2 p hMember p List.mem_cons_self rfl
  rw [attributedTicks_append]
  exact (shadowedBy_ticks_other world hBefore).bind
    ((shadowedBy_tickOne world).bind
      (shadowedBy_ticks_other world hNodup.2.1.1))

/- Ticks of every worker are followed, in whichever order they come. -/
theorem shadowedBy_attributedTickAll :
    (Engine.attributedTickAll world).ShadowedBy p
      [Engine.tickAll Replay.world.recorded] := by
  intro s alone hKeyed hMirrors
  unfold Engine.attributedTickAll
  rw [Activity.leads_bind]
  apply Activity.leads_servedFor
  unfold Engine.visited
  rw [Activity.leads_bind, Activity.leads_engine,
    Activity.leads_bind]
  apply Activity.leads_quiet_call fun _ => rfl
  intro order t
  refine ⟨[], rfl, ?_⟩
  have hPerm := order.2
  by_cases hListed : p ∈ order.1
  · exact shadowedBy_ticks world
      (hPerm.nodup_iff.mpr s.engine.workers.nodup) hListed
      ⟨s.engine, t, s.world.2⟩ alone hKeyed hMirrors
  · have hNone : s.engine.workers.get? p = none := by
      by_contra hFound
      exact hListed
        (hPerm.mem_iff.mpr (Table.mem_keys_iff.mpr hFound))
    have hIdle :
        Shadowed p [Engine.tickAll Replay.world.recorded] alone
          s.world.2 (.ok ()) s.engine s.world.2 :=
      .single [] (.inl rfl)
        (replays_tickAll_idle (m := s.plain.moment) hNone hMirrors)
        hMirrors hKeyed (List.forall_mem_nil _)
    exact hIdle.leads (t := ⟨s.engine, t, s.world.2⟩)
      (shadowedBy_ticks_other world hListed)

theorem shadowedBy_updateGauges :
    ((Engine.updateGauges : Activity (σ × History) Unit).servedFor
        none).ShadowedBy p
      [Engine.updateGauges] := by
  intro s alone hKeyed hMirrors
  apply ShadowedPart.leads
  apply leads_updateGauges
  · intro metrics hGauged
    rcases replays_updateGauges hGauged.not_gaugesFail
        hMirrors with
      ⟨alone', hReplays, hMirrors'⟩
    refine ⟨[], rfl, ?_⟩
    exact .single _ (.inl rfl) hReplays
      (hMirrors'.of_lanes_eq rfl fun _ => rfl) hKeyed
      (List.forall_mem_nil _)
  · intro metrics fault hFault
    refine ⟨[], rfl, .stopped ?_⟩
    exact .unheard _ rfl
      (hMirrors.of_lanes_eq rfl fun _ => rfl) hKeyed
      (List.forall_mem_nil _)

/- The parts of an attributed step are followed by those of a step. -/
theorem shadowedBy_attributedStep :
    (Engine.attributedStep world).ShadowedBy p
      (Engine.parts Replay.world.recorded) :=
  (shadowedBy_attributedPoll world).bind
    ((shadowedBy_releaseRevoked world).bind
      ((shadowedBy_attributedTickAll world).bind
        shadowedBy_updateGauges))

theorem shadowedBy_attributedSteps (steps : Nat) :
    (Engine.attributedSteps world steps).ShadowedBy p
      (List.replicate steps
        (Engine.parts Replay.world.recorded)).flatten := by
  induction steps with
  | zero =>
      intro s alone hKeyed hMirrors
      exact Shadowed.unheard [] rfl hMirrors hKeyed
        (List.forall_mem_nil _)
  | succ steps ih => exact (shadowedBy_attributedStep world).bind ih

end Parts

------------------------------------------------------------
-- Runs of One Partition
------------------------------------------------------------

/- The parts of steps in a row are the steps. -/
theorem inTurn_replicate_parts
    (world : World σ)
    (steps : Nat) :
    Activity.inTurn
        (List.replicate steps (Engine.parts world)).flatten =
      Engine.stepping world steps := by
  induction steps with
  | zero => rfl
  | succ steps ih =>
      rw [List.replicate_succ, List.flatten_cons,
        Activity.inTurn_append, ih, Engine.inTurn_parts]
      rfl

/- The first of these parts make whole steps and begin another. -/
theorem prefix_replicate_flatten
    {xs made : List α}
    {steps : Nat}
    (hMade : made <+: (List.replicate steps xs).flatten) :
    ∃ whole n, whole ≤ steps ∧
      made = (List.replicate whole xs).flatten ++ xs.take n := by
  induction steps generalizing made with
  | zero =>
      refine ⟨0, 0, Nat.le_refl 0, ?_⟩
      simpa using hMade
  | succ steps ih =>
      rw [List.replicate_succ, List.flatten_cons] at hMade
      rcases List.prefix_or_prefix_of_prefix hMade
          (List.prefix_append xs _) with hPart | ⟨more, rfl⟩
      · refine ⟨0, made.length, Nat.zero_le _, ?_⟩
        simpa using List.prefix_iff_eq_take.mp hPart
      · rw [List.prefix_append_right_inj] at hMade
        rcases ih hMade with ⟨whole, n, hWhole, rfl⟩
        refine ⟨whole + 1, n, Nat.succ_le_succ hWhole, ?_⟩
        simp [List.replicate_succ]

/-
  A run of steps among others is followed alone: an engine
  that hears what happened for one partition makes as many
  whole steps, and as much of the next as the partition saw,
  with the same calls, the same lane and no event left.
-/
structure FollowedAlone
    (p : PartitionKey)
    (start : Engine)
    (steps : Nat)
    (r : Except Stop Unit)
    (t : Session (σ × Log))
    (whole n : Nat)
    (r' : Except Stop Unit)
    (u : Session (List Event × History)) : Prop where
  run :
    (Engine.steppingInto Replay.world.recorded whole n).run.run
        ⟨start, t.world.2.heard p, []⟩ =
      (r', u)
  within : whole ≤ steps
  complete : r = .ok () → whole = steps ∧ n = 0
  ending : r' = .ok () ∨ r' = r
  heard : u.world = ([], (t.world.2.heard p).reverse)
  lane : u.engine.lane p = t.engine.lane p
  calls :
    History.callsFor p u.world.2 =
      t.world.2.events.callsFor p

/- The parts that were made are whole steps and a part of one. -/
theorem Shadowed.followedAlone
    {start : Engine}
    {steps : Nat}
    {r : Except Stop Unit}
    {t : Session (σ × Log)}
    (hShadowed :
      Shadowed p
        (List.replicate steps
          (Engine.parts Replay.world.recorded)).flatten
        start [] r t.engine t.world.2) :
    ∃ whole n r' u,
      FollowedAlone p start steps r t whole n r' u := by
  rcases hShadowed with
    ⟨new, made, r', alone', hLog, hMade, hAll, hEnd, hReplays,
      hMirrors, -, hCredits⟩
  rw [List.append_nil] at hLog
  subst hLog
  have hRun := hReplays [] []
  rw [List.append_nil, List.append_nil] at hRun
  have hSteps :
      ∃ whole n, whole ≤ steps ∧
        (r = .ok () → whole = steps ∧ n = 0) ∧
        Activity.inTurn made =
          Engine.steppingInto Replay.world.recorded whole n := by
    unfold Engine.steppingInto
    by_cases hOk : r = .ok ()
    · refine ⟨steps, 0, Nat.le_refl _, fun _ => ⟨rfl, rfl⟩, ?_⟩
      rw [hAll hOk, inTurn_replicate_parts]
      simp [Activity.inTurn]
    · rcases prefix_replicate_flatten hMade with
        ⟨whole, n, hWhole, rfl⟩
      refine ⟨whole, n, hWhole, fun hIs => absurd hIs hOk, ?_⟩
      rw [Activity.inTurn_append, inTurn_replicate_parts]
  rcases hSteps with ⟨whole, n, hWhole, hComplete, hParts⟩
  rw [hParts] at hRun
  exact ⟨whole, n, r', _, hRun, hWhole, hComplete, hEnd, rfl,
    hMirrors.lane, hCredits.callsFor_heard.symm⟩

/- Partitions do not interfere with one another in any run. -/
theorem alone_of_run
    (world : World σ)
    (settings : Settings)
    (steps : Nat)
    (s : σ)
    {r : Except Stop Unit}
    {t : Session (σ × Log)}
    (hRun :
      (Engine.attributedSteps world steps).run.run
          ⟨(Engine.fresh settings).started, s, []⟩ =
        (r, t)) :
    (Engine.stepping world.recorded steps).run.run
          ⟨(Engine.fresh settings).started, s, []⟩ =
        (r, t.plain) ∧
      ∀ p, ∃ whole n r' u,
        FollowedAlone p (Engine.fresh settings).started steps r t
          whole n r' u := by
  have hPlain :=
    runsAs_attributedSteps world steps
      ⟨(Engine.fresh settings).started, s, []⟩
  rw [hRun] at hPlain
  refine ⟨hPlain, ?_⟩
  intro p
  have hShadowed :=
    shadowedBy_attributedSteps (p := p) world steps
      ⟨(Engine.fresh settings).started, s, []⟩ _ nofun
      (.fresh p settings)
  apply Shadowed.followedAlone
  cases r with
  | ok => exact hShadowed.of_run_ok hRun
  | error why => exact hShadowed.of_run_error hRun

/- The partition next to the one of a script. -/
def neighbour : PartitionKey :=
  ⟨"logs", 1⟩

/-
  A fragment fails, is delivered again and is stored.  The
  upload of its neighbour is dropped.
-/
def interleavedScript : Script where
  polls :=
    [.fragment (Script.fragment 3), .fragment (Script.fragment 3),
      .fragment ⟨.empty, 5, ⟨neighbour, 7⟩⟩]
  uploads := [.refused, .stored, .dropped]
  assigned := [Script.partition, neighbour]

@[irreducible] def interleavedRun :
    Except Stop Unit × Session (Script × Log) :=
  (Engine.attributedSteps Script.world 9).run.run
    ⟨(Engine.fresh eagerSettings).started, interleavedScript, []⟩

theorem alone_of_interleavedRun :
    interleavedRun.1 = .error .dropped ∧
      (interleavedRun.2.world.2.events.callsFor
          Script.partition).length = 4 ∧
      (interleavedRun.2.world.2.events.callsFor
          neighbour).length = 1 ∧
      ∀ p, ∃ whole n r' u,
        FollowedAlone p (Engine.fresh eagerSettings).started 9
          interleavedRun.1 interleavedRun.2 whole n r' u := by
  have hRun :
      (Engine.attributedSteps Script.world 9).run.run
          ⟨(Engine.fresh eagerSettings).started,
            interleavedScript, []⟩ =
        (interleavedRun.1, interleavedRun.2) := by
    rw [Prod.eta, interleavedRun]
  refine ⟨?_, ?_, ?_, ?_⟩
  · decide +kernel
  · decide +kernel
  · decide +kernel
  · exact (alone_of_run Script.world eagerSettings 9
      interleavedScript hRun).2

end FragmentSink
