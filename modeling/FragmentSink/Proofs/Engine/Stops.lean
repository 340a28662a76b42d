import FragmentSink.Proofs.Engine.Halting

/-
  What stops the loop of an engine.

  A loop is stopped by an error that the stream answers with,
  by a wait that is dropped, and by the failure that spends a
  budget, each at once.  So the history of a loop tells at its
  end whether it was stopped and why, and nowhere before.

  Main declarations:
    * `Event.stop?`
    * `Stops`
    * `Told`
    * `Told.eq_of_stops`
    * `Told.stops_iff`
-/

namespace FragmentSink

open History

variable {p : PartitionKey}
variable {policy : RetryPolicy}
variable {h h' h₁ : History}
variable {w w' : Worker}
variable {m m₁ m' : Moment}
variable {r : Except Stop Unit}
variable {answer : FlushEnd}
variable {why : Stop}

------------------------------------------------------------
-- Events that Stop a Loop
------------------------------------------------------------

namespace Event

/-
  The reason with which an event stops the loop it happens
  in.  A poll that failed says itself whether to go on.
-/
def stop? : Event → Option Stop
| .poll (.done (.failed cause _ false)) => some (.failed cause)
| .commit _ (.done (.error cause)) => some (.failed cause)
| .rewind _ _ (.error cause) => some (.failed cause)
| .poll .dropped => some .dropped
| .upload _ .dropped => some .dropped
| .commit _ .dropped => some .dropped
| .sleep _ .dropped => some .dropped
| _ => none

/- An event by itself lets a loop go on. -/
def GoesOn (e : Event) : Prop :=
  e.stop? = none

/- It never tells of a fault. -/
theorem stop?_ne_fault
    (e : Event)
    (fault : Fault) :
    e.stop? ≠ some (.fault fault) := by
  fun_cases stop? <;> simp

end Event

/-
  The histories that stop a loop, each with the reason: their
  latest event does, or it is the noise read for a failure
  that was one too many.
-/
inductive Stops (policy : RetryPolicy) : History → Stop → Prop
| told
    {e : Event}
    {why : Stop}
    (h : History)
    (hStop : e.stop? = some why) :
    Stops policy (e :: h) why
| spent
    {f : Fragment}
    {bad : UploadEnd}
    {earlier : History}
    (n : UInt64)
    (now : Timestamp)
    (hBad : bad.Fails)
    (hSpent :
      failuresInRow f.partitionKey earlier + 1 =
        policy.maxRetries.toNat) :
    Stops policy
      (.noise n :: .clock now :: .upload f bad :: earlier) .halt

theorem Stops.ne_fault
    (hStops : Stops policy h why)
    (fault : Fault) :
    why ≠ .fault fault := by
  cases hStops with
  | told h hStop =>
      rintro rfl
      exact Event.stop?_ne_fault _ fault hStop
  | spent => exact nofun

------------------------------------------------------------
-- What Moves Tell
------------------------------------------------------------

/-
  From a history on, an engine came to a moment, and what has
  happened tells how: nothing stopped it, a fault of its own
  did, a spent budget did, or the latest event.
-/
inductive Told (h : History) : Except Stop Unit → Moment → Prop
| goesOn
    {m : Moment}
    (hGrows : Grows Event.GoesOn h m.history) :
    Told h (.ok ()) m
| faulted
    {m : Moment}
    (fault : Fault)
    (hGrows : Grows Event.GoesOn h m.history) :
    Told h (.error (.fault fault)) m
| halted
    {m : Moment}
    {p : PartitionKey}
    (hGrows : Grows Event.GoesOn h m.history)
    (hSpent : m.engine.Spent p) :
    Told h (.error .halt) m
| stopped
    {e : Event}
    {h₁ : History}
    {why : Stop}
    (engine : Engine)
    (hGrows : Grows Event.GoesOn h h₁)
    (hStop : e.stop? = some why) :
    Told h (.error why) ⟨engine, e :: h₁⟩

theorem Told.after
    (hTold : Told h₁ r m)
    (hGrows : Grows Event.GoesOn h h₁) :
    Told h r m := by
  cases hTold with
  | goesOn hThen => exact .goesOn (hGrows.trans hThen)
  | faulted fault hThen => exact .faulted fault (hGrows.trans hThen)
  | halted hThen hSpent => exact .halted (hGrows.trans hThen) hSpent
  | stopped engine hThen hStop =>
      exact .stopped engine (hGrows.trans hThen) hStop

theorem Told.grows
    (hTold : Told h (.ok ()) m) :
    Grows Event.GoesOn h m.history := by
  cases hTold with
  | goesOn hGrows => exact hGrows

/- A commit that is not dropped lets the loop go on. -/
theorem Uploaded.goesOn
    {batch : List Fragment}
    {ending : CommitEnd}
    (hUploaded : Uploaded batch h ending h')
    (hEnded : ending ≠ .dropped) :
    Grows Event.GoesOn h h' := by
  have hRow (fs : List Fragment) :
      Grows Event.GoesOn h (storedRow fs ++ h) :=
    .storedRow h fun f _ => rfl
  cases hUploaded with
  | durable => exact hRow batch
  | failed before f after _ bad hBad =>
      apply (hRow before).cons
      cases bad with
      | refused => rfl
      | expired => rfl
      | stored => cases hBad
      | dropped => cases hBad
  | dropped => exact absurd rfl hEnded

/- One that is dropped ends with the upload that was. -/
theorem Uploaded.told
    {batch : List Fragment}
    (hUploaded : Uploaded batch h .dropped h')
    (engine : Engine) :
    Told h (.error .dropped) ⟨engine, h'⟩ := by
  cases hUploaded with
  | dropped before f after =>
      exact .stopped engine (.storedRow h fun f _ => rfl) rfl

theorem Worker.Ticked.goesOn
    (hTicked : w.Ticked h answer w' h')
    (hEnded : answer ≠ .dropped) :
    Grows Event.GoesOn h h' := by
  have hHere (now : Timestamp) :
      Grows Event.GoesOn h (.clock now :: h) :=
    (Grows.refl _ h).cons rfl
  cases hTicked with
  | idle now => exact hHere now
  | ready now reason hReason hFlushed =>
      cases hFlushed with
      | empty => exact (hHere now).cons rfl
      | durable first rest =>
          exact ((hHere now).trans
            ((Uploaded.durable (first :: rest) _).goesOn
              nofun)).cons rfl
      | failed first rest uploads later hPending hUploaded =>
          exact ((hHere now).trans (hUploaded.goesOn nofun)).cons rfl
      | dropped => exact absurd rfl hEnded

theorem Worker.Ticked.told
    (hTicked : w.Ticked h .dropped w' h')
    (engine : Engine) :
    Told h (.error .dropped) ⟨engine, h'⟩ := by
  cases hTicked with
  | ready now reason hReason hFlushed =>
      cases hFlushed with
      | dropped first rest uploads hPending hUploaded =>
          exact (hUploaded.told engine).after
            ((Grows.refl _ h).cons rfl)

/- How an outcome is settled tells why it stops the engine. -/
theorem Settled.told
    {elapsed : Span}
    (hSettled : Settled p elapsed m answer r m') :
    Told m.history r m' := by
  have hHere := Grows.refl Event.GoesOn m.history
  have hNoted
      (n : UInt64) :
      Grows Event.GoesOn m.history (.noise n :: m.history) :=
    hHere.cons rfl
  cases hSettled with
  | nothing => exact .goesOn hHere
  | acknowledged b => exact .goesOn (hHere.cons rfl)
  | unacknowledged b cause => exact .stopped _ hHere rfl
  | lost b => exact .stopped _ hHere rfl
  | halted n consecutive hAction =>
      exact .halted (hNoted n)
        (m.engine.spent_of_halt elapsed hAction)
  | unsent n backoff offset cause =>
      exact .stopped _ (hNoted n) rfl
  | untracked n backoff offset fault =>
      exact .faulted fault ((hNoted n).cons rfl)
  | waited n backoff offset offsets answer =>
      have hSent :=
        (hNoted n).cons (e := .rewind p offset (.ok ())) rfl
      cases answer with
      | done => exact .goesOn (hSent.cons rfl)
      | dropped => exact .stopped _ hSent rfl

theorem Worked.told
    (hWorked : Worked p w m r m') :
    Told m.history r m' := by
  cases hWorked with
  | settled elapsed hTicked hAnswer hSettled =>
      exact hSettled.told.after (hTicked.goesOn hAnswer)
  | cut hTicked => exact hTicked.told _

theorem Readied.goesOn
    (hReadied : Readied p m w m₁) :
    Grows Event.GoesOn m.history m₁.history := by
  cases hReadied with
  | kept => exact .refl _ _
  | opened => exact (Grows.refl _ _).cons rfl

/- Every move of an engine tells whether it stops, and why. -/
theorem Move.told
    (hMove : Move m r m') :
    Told m.history r m' := by
  have hHere := Grows.refl Event.GoesOn m.history
  have hPolled
      (answer : Poll)
      (hGoesOn : Event.GoesOn (.poll (.done answer))) :
      Grows Event.GoesOn m.history
        (.poll (.done answer) :: m.history) :=
    hHere.cons hGoesOn
  cases hMove with
  | unpolled => exact .stopped _ hHere rfl
  | quiet => exact .goesOn (hHere.cons rfl)
  | troubled cause backoff answer =>
      have hFailed := hPolled (.failed cause backoff true) rfl
      cases answer with
      | done => exact .goesOn (hFailed.cons rfl)
      | dropped => exact .stopped _ hFailed rfl
  | broken cause backoff => exact .stopped _ hHere rfl
  | @delivered f w m₁ m' r hReadied hRouted hWorked =>
      exact hWorked.told.after
        ((hPolled (.fragment f) rfl).trans hReadied.goesOn)
  | @misrouted f w m₁ hReadied =>
      exact .faulted _
        ((hPolled (.fragment f) rfl).trans hReadied.goesOn)
  | released ps => exact .goesOn (hHere.cons rfl)
  | unassigned cause => exact .goesOn (hHere.cons rfl)
  | ticked hWorker hWorked => exact hWorked.told
  | gauged => exact .goesOn hHere
  | overflowed metrics fault => exact .faulted fault hHere

/- So do all moves of a loop together. -/
theorem Reaches.told
    {start : Moment}
    (hReaches : Reaches start (.after r) m) :
    Told start.history r m :=
  hReaches.loop_induction (motive := Told start.history)
    (.goesOn (.refl _ _))
    fun _ _ _ _ hBefore hMove => hMove.told.after hBefore.grows

------------------------------------------------------------
-- Stopped Loops
------------------------------------------------------------

/-
  A budget that is spent was spent by the latest failure, and
  the noise was read for it.
-/
theorem Budgeted.stops_of_spent
    (hBudgeted : Budgeted policy p r h)
    (hPolicy : 1 ≤ policy.maxRetries.toNat)
    (hSpent : failuresInRow p h = policy.maxRetries.toNat) :
    Stops policy h .halt := by
  have hLeft
      {h : History}
      (hGoesOn : Budgeted policy p (.ok ()) h) :
      failuresInRow p h < policy.maxRetries.toNat :=
    hGoesOn.lt_maxRetries hPolicy rfl (List.nil_append _).symm
  cases hBudgeted with
  | fresh => exact absurd hSpent (Nat.ne_of_lt (hLeft .fresh))
  | aside hBefore hFails hRewinds =>
      have hFew := hLeft (hBefore.aside hFails hRewinds)
      exact absurd hSpent (Nat.ne_of_lt hFew)
  | @struck f bad earlier answer r hBefore hFails hReaction =>
      have hReacted :
          Reaction policy p (batchStart f earlier)
            (failuresInRow p earlier + 1) r ([] ++ answer) :=
        hReaction
      rw [hReacted.failuresInRow_eq hFails] at hSpent
      rcases hReaction.lt_or_halts with
        hFew | ⟨-, -, n, now, rfl⟩
      · exact absurd hSpent (Nat.ne_of_lt hFew)
      · rcases hFails with ⟨rfl, hBad⟩
        exact .spent n now hBad hSpent

section Told

variable (hPolicy : 1 ≤ policy.maxRetries.toNat)
variable (hTallied : ∀ p, Tallied policy p r m)

include hPolicy hTallied

/-
  Nothing that stops a loop stands in its history before the
  end, and what stands there is the reason it was stopped for.
-/
theorem Told.eq_of_stops
    {rest earlier : History}
    (hTold : Told [] r m)
    (hSplit : m.history = rest ++ earlier)
    (hStops : Stops policy earlier why) :
    rest = [] ∧ r = .error why := by
  cases hStops with
  | @told e why h hStop =>
      have hNone
          {h' : History}
          (hGrows : Grows Event.GoesOn [] h')
          (hMem : e ∈ h') :
          False := by
        rcases hGrows with ⟨es, rfl, hGoesOn⟩
        rw [List.append_nil] at hMem
        cases (hGoesOn e hMem).symm.trans hStop
      have hMem : e ∈ m.history := by
        rw [hSplit]
        exact List.mem_append_right rest List.mem_cons_self
      cases hTold with
      | goesOn hGrows => cases hNone hGrows hMem
      | faulted fault hGrows => cases hNone hGrows hMem
      | halted hGrows => cases hNone hGrows hMem
      | stopped engine hGrows hLatest =>
          cases rest with
          | nil =>
              cases hSplit
              cases hLatest.symm.trans hStop
              exact ⟨rfl, rfl⟩
          | cons e' rest =>
              cases hSplit
              cases hNone hGrows
                (List.mem_append_right rest List.mem_cons_self)
  | @spent f bad earlier n now hBad hSpent =>
      -- The budget of the failed partition knows its last failure.
      have hTally := hTallied f.partitionKey
      rcases hTally.budgeted with ⟨r', hBudgeted, hLatest⟩
      have hFails : Event.Fails f.partitionKey (.upload f bad) :=
        ⟨rfl, hBad⟩
      have hBefore :
          m.history =
            (rest ++ [.noise n, .clock now]) ++
              .upload f bad :: earlier := by
        rw [hSplit]
        simp
      have hFull := (failuresInRow_of_fails hFails).trans hSpent
      rcases hBudgeted.lt_or_halted hPolicy hBefore with
        hLeft | ⟨-, hHalts, n', now', hPrefix⟩
      · exact absurd hFull (Nat.ne_of_lt hLeft)
      · have hLength := hPrefix.length_le
        simp only [List.length_append, List.length_cons,
          List.length_nil] at hLength
        refine ⟨List.eq_nil_of_length_eq_zero (by omega), ?_⟩
        rcases hLatest with rfl | rfl
        · cases hHalts
        · exact hHalts

/-
  A loop was stopped for a reason exactly if the end of its
  history says so, unless a fault of its own stopped it.
-/
theorem Told.stops_iff
    (hTold : Told [] r m) :
    Stops policy m.history why ↔
      r = .error why ∧ ∀ fault, why ≠ .fault fault := by
  constructor
  · intro hStops
    have hReason :=
      hTold.eq_of_stops hPolicy hTallied
        (List.nil_append _).symm hStops
    exact ⟨hReason.2, hStops.ne_fault⟩
  · rintro ⟨rfl, hWhy⟩
    generalize hStopped : Except.error why = r at hTold
    cases hTold with
    | goesOn => cases hStopped
    | faulted fault =>
        cases hStopped
        exact absurd rfl (hWhy fault)
    | @halted m p hGrows hSpent =>
        cases hStopped
        rcases (hTallied p).budgeted with ⟨r', hBudgeted, -⟩
        exact hBudgeted.stops_of_spent hPolicy
          ((hTallied p).eq_of_spent hPolicy hSpent)
    | stopped engine hGrows hStop =>
        cases hStopped
        exact .told _ hStop

end Told

end FragmentSink
