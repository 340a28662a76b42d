import FragmentSink.Proofs.Engine.Reach

/-
  The steps of an engine, apart from what closes its run.

  A run makes steps up to a number of them, or up to one that
  stops early, and is then concluded.  A step also stops early
  where it is dropped while it waits, so the session that a
  stopped step leaves behind is the one at that wait.

  Main declarations:
    * `Engine.stepping`
    * `Engine.loop_stepping`
    * `Engine.atPolls_stepping`
    * `reaches_stepping`
-/

namespace FragmentSink

variable {σ : Type}

------------------------------------------------------------
-- Stepping
------------------------------------------------------------

/- Activities, one after the other. -/
def Activity.inTurn : List (Activity σ Unit) → Activity σ Unit
| [] => pure ()
| x :: xs => do
    x
    inTurn xs

namespace Engine

/- Make a number of steps, up to the first that stops early. -/
def stepping (world : World σ) : Nat → Activity σ Unit
| 0 => pure ()
| steps + 1 => do
    step world
    stepping world steps

/- One poll, and what is made of its answer. -/
def polled (world : World σ) : Activity σ Unit := do
  handlePoll world (← Activity.await world.poll)

/- The parts of a step, in their order. -/
def parts (world : World σ) : List (Activity σ Unit) :=
  [polled world, releaseRevoked world, tickAll world,
    updateGauges]

/- Make some whole steps, and then the first parts of one more. -/
def steppingInto
    (world : World σ)
    (whole n : Nat) : Activity σ Unit := do
  stepping world whole
  Activity.inTurn ((parts world).take n)

/- The rest of a run that makes no step any more. -/
def concluded
    (world : World σ) :
    Except Stop Unit × Session σ → Run σ
| (.ok (), s) => ⟨[], .unfinished, s⟩
| (.error .dropped, s) => closing world .stopped s
| (.error (.failed e), s) => closing world (.failed e) s
| (.error (.fault f), s) => ⟨[], .fault f, s⟩

variable (world : World σ)
variable (steps : Nat)
variable (s : Session σ)

/- A step is its parts in turn. -/
theorem inTurn_parts :
    Activity.inTurn (parts world) = step world := by
  simp [Activity.inTurn, parts, polled, step]

/- A run makes its steps and is then concluded. -/
theorem loop_stepping :
    (loop world steps s).ending =
        (concluded world
          ((stepping world steps).run.run s)).ending ∧
      (loop world steps s).last =
        (concluded world
          ((stepping world steps).run.run s)).last := by
  induction steps generalizing s with
  | zero => exact ⟨rfl, rfl⟩
  | succ steps ih =>
      unfold loop stepping
      rw [Activity.run_bind]
      rcases (step world).run.run s with ⟨r, t⟩
      cases r with
      | ok => exact ih t
      | error why => cases why <;> exact ⟨rfl, rfl⟩

/- The states at the polls of a run are those between its steps. -/
theorem atPolls_stepping :
    ∀ t ∈ (loop world steps s).atPolls,
      ∃ done,
        (stepping world done).run.run s = (.ok (), t) := by
  induction steps generalizing s with
  | zero => exact List.forall_mem_nil _
  | succ steps ih =>
      unfold loop
      have hFirst :
          ∃ done, (stepping world done).run.run s = (.ok (), s) :=
        ⟨0, rfl⟩
      rcases hStep : (step world).run.run s with ⟨r, t⟩
      cases r with
      | ok =>
          refine List.forall_mem_cons.mpr ⟨hFirst, ?_⟩
          intro u hPoll
          rcases ih t u hPoll with ⟨done, hDone⟩
          refine ⟨done + 1, ?_⟩
          rw [stepping, Activity.run_bind, hStep]
          exact hDone
      | error why =>
          cases why with
          | fault => exact List.forall_mem_singleton.mpr hFirst
          | dropped =>
              simp only [atPolls_closing]
              exact List.forall_mem_singleton.mpr hFirst
          | failed =>
              simp only [atPolls_closing]
              exact List.forall_mem_singleton.mpr hFirst

end Engine

------------------------------------------------------------
-- Moments of Steps
------------------------------------------------------------

/- Steps are made of moves, one after the other. -/
theorem ends_stepping
    (world : World σ)
    (steps : Nat)
    (s : Session (σ × History)) :
    (Engine.stepping world.recorded steps).Ends s
      (Chain Move s.moment) := by
  induction steps generalizing s with
  | zero => exact .done s.moment
  | succ steps ih => exact (ends_step world s).bind ih

/- What steps leave behind is reached by them. -/
theorem reaches_stepping
    (world : World σ)
    (steps : Nat)
    {s t : Session (σ × History)}
    {r : Except Stop Unit}
    (hSteps :
      (Engine.stepping world.recorded steps).run.run s = (r, t)) :
    Reaches s.moment (.after r) t.moment :=
  Reaches.start.chain ((ends_stepping world steps s).of_run hSteps)

end FragmentSink
