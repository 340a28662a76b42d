import FragmentSink.Proofs.Engine.Apart
import FragmentSink.Proofs.Engine.Failures

/-
  The failure budgets that an engine keeps, told by the
  history it leaves behind.

  Budgets come into the table with a failure and leave it with
  a success or a revocation.  Still the table says of every
  partition how often it has failed in a row, and the history
  of a running engine is budgeted for each of them.

  Main declarations:
    * `Counted`
    * `Spared`
    * `Tallied`
    * `Settled.reaction`
    * `Move.tallied`
-/

namespace FragmentSink

open History

variable {p q : PartitionKey}
variable {policy : RetryPolicy}
variable {f : Fragment}
variable {e : Event}
variable {h h' earlier : History}
variable {w w' : Worker}
variable {m m₁ m' : Moment}
variable {r : Except Stop Unit}

------------------------------------------------------------
-- Budgets
------------------------------------------------------------

/- Counting a failure leaves room for the number it counts. -/
theorem FailureBudget.countFailure_ofNat
    {n : Nat}
    (hLeft : n < policy.maxRetries.toNat) :
    FailureBudget.countFailure ⟨policy, UInt32.ofNat n⟩ =
      ⟨policy, UInt32.ofNat (n + 1)⟩ := by
  have hTop := policy.maxRetries.toNat_lt
  have hNumber : (UInt32.ofNat n).toNat = n :=
    Nat.mod_eq_of_lt (by omega)
  have hMost : min (n + 1) mostFailures = n + 1 := by
    simp only [mostFailures, UInt32.size]
    omega
  simp [countFailure, hNumber, hMost]

/-
  After one more failure the engine halts if that spends the
  budget, and else waits for the delay of its number.
-/
theorem FailureBudget.action_countFailure
    {n : Nat}
    (hLeft : n < policy.maxRetries.toNat)
    (noise : UInt64) :
    (FailureBudget.countFailure
        ⟨policy, UInt32.ofNat n⟩).action noise =
      if n + 1 = policy.maxRetries.toNat then
        .halt policy.maxRetries
      else
        .retry (policy.delay (UInt32.ofNat n) noise) := by
  have hTop := policy.maxRetries.toNat_lt
  have hNumber : (UInt32.ofNat (n + 1)).toNat = n + 1 :=
    Nat.mod_eq_of_lt (by omega)
  rw [countFailure_ofNat hLeft, action]
  by_cases hSpent : n + 1 = policy.maxRetries.toNat
  · have hLast : UInt32.ofNat (n + 1) = policy.maxRetries :=
      UInt32.toNat_inj.mp (hNumber.trans hSpent)
    rw [if_pos hSpent, hLast, if_pos (UInt32.le_refl _)]
  · have hBefore : UInt32.ofNat (n + 1) - 1 = UInt32.ofNat n := by
      simp [UInt32.ofNat_add]
    have hFew : ¬ policy.maxRetries ≤ UInt32.ofNat (n + 1) := by
      rw [UInt32.le_iff_toNat_le, hNumber]
      omega
    rw [if_neg hSpent, if_neg hFew, hBefore]

------------------------------------------------------------
-- Uploads and Ticks
------------------------------------------------------------

/- An upload that does not fail is calm. -/
theorem Event.calm_upload
    {ending : UploadEnd}
    (hEnding : ¬ ending.Fails) :
    Event.Calm p (.upload f ending) :=
  ⟨fun hFails => hEnding hFails.2, id, id⟩

theorem Uploaded.calm
    {batch : List Fragment}
    {ending : CommitEnd}
    (hUploaded : Uploaded batch h ending h')
    (hEnding : ending ≠ .failed) :
    Grows (Event.Calm p) h h' := by
  have hRow (fs : List Fragment) :
      Grows (Event.Calm p) h (storedRow fs ++ h) :=
    .storedRow h fun f _ => Event.calm_upload id
  cases hUploaded with
  | durable => exact hRow batch
  | failed => exact absurd rfl hEnding
  | dropped before => exact (hRow before).cons (Event.calm_upload id)

/-
  A commit that failed, as it stands in a history: the last
  event is the failure, its batch is known by its first
  offset, and nothing else concerned the partition.
-/
structure FailedUpload
    (p : PartitionKey)
    (offset : Int64)
    (h h' : History)
    (f : Fragment)
    (bad : UploadEnd)
    (earlier : History) : Prop where
  last : h' = .upload f bad :: earlier
  fails : Event.Fails p (.upload f bad)
  calm : Grows (Event.Calm p) h earlier
  start : batchStart f earlier = offset

theorem Uploaded.failedUpload
    {first : Fragment}
    {rest : List Fragment}
    (hUploaded : Uploaded (first :: rest) h .failed h')
    (hKeyed : ∀ f ∈ first :: rest, f.partitionKey = p)
    (hTop : h.topRow = []) :
    ∃ f bad earlier,
      FailedUpload p first.offset h h' f bad earlier := by
  generalize hBatch : first :: rest = batch at *
  cases hUploaded with
  | failed before f after _ bad hBad =>
      refine ⟨f, bad, storedRow before ++ h, rfl, ⟨?_, hBad⟩, ?_, ?_⟩
      · exact hKeyed f (by simp)
      · exact .storedRow h fun f _ => Event.calm_upload id
      · rw [batchStart, topRow_storedRow_append, hTop]
        cases before with
        | nil =>
            cases hBatch
            rfl
        | cons g before =>
            cases hBatch
            rfl

namespace Worker

theorem Flushed.calm
    {reason : FlushReason}
    {answer : FlushEnd}
    (hFlushed : w.Flushed reason h answer w' h')
    (hAnswer : answer ≠ .failed) :
    Grows (Event.Calm p) h h' := by
  cases hFlushed with
  | empty => exact (Grows.refl _ h).cons ⟨id, id, id⟩
  | durable first rest =>
      exact ((Uploaded.durable (first :: rest) h).calm nofun).cons
        ⟨id, id, id⟩
  | failed => exact absurd rfl hAnswer
  | dropped first rest uploads hPending hUploaded =>
      exact hUploaded.calm nofun

theorem Ticked.calm
    {answer : FlushEnd}
    (hTicked : w.Ticked h answer w' h')
    (hAnswer : answer ≠ .failed) :
    Grows (Event.Calm p) h h' := by
  have hHere (now : Timestamp) :
      Grows (Event.Calm p) h (.clock now :: h) :=
    (Grows.refl _ h).cons ⟨id, id, id⟩
  cases hTicked with
  | idle now => exact hHere now
  | ready now reason hReason hFlushed =>
      exact (hHere now).trans (hFlushed.calm hAnswer)

/- A tick that failed leaves nothing pending, and its first offset. -/
theorem Ticked.failedUpload
    (hTicked : w.Ticked h .failed w' h')
    (hKeyed : w.Keyed p) :
    w'.pending = [] ∧
      ∃ now uploads offset f bad earlier,
        h' = .clock now :: uploads ∧
          w'.redelivery = some offset ∧
          FailedUpload p offset h uploads f bad earlier := by
  cases hTicked with
  | ready now reason hReason hFlushed =>
      cases hFlushed with
      | failed first rest uploads later hPending hUploaded =>
          have hBatch := hKeyed.pending
          rw [hPending] at hBatch
          rcases hUploaded.failedUpload hBatch rfl with
            ⟨f, bad, earlier, hFailed⟩
          have hHere : Grows (Event.Calm p) h (.clock now :: h) :=
            (Grows.refl _ h).cons ⟨id, id, id⟩
          exact ⟨rfl, later, uploads, first.offset, f, bad,
            earlier, rfl, rfl, hFailed.last, hFailed.fails,
            hHere.trans hFailed.calm, hFailed.start⟩

end Worker

------------------------------------------------------------
-- Tallies
------------------------------------------------------------

theorem Settled.policy_eq
    {elapsed : Span}
    {answer : FlushEnd}
    (hSettled : Settled p elapsed m answer r m') :
    m'.engine.policy = m.engine.policy :=
  congrArg Engine.Setup.policy hSettled.setup_eq

/- No move changes the policy. -/
theorem Move.policy_eq
    (hMove : Move m r m') :
    m'.engine.policy = m.engine.policy :=
  congrArg Engine.Setup.policy hMove.setup_eq

/- The budget of an engine for a partition has counted its failures. -/
structure Counted
    (policy : RetryPolicy)
    (p : PartitionKey)
    (m : Moment) : Prop where
  policy_eq : m.engine.policy = policy
  budget_eq :
    m.engine.budgetOf p =
      ⟨policy, UInt32.ofNat (failuresInRow p m.history)⟩

/-
  What a failure budget comes to after a move that goes on or
  stops the engine: it has counted the failures, the history
  is budgeted, and a budget that is spent has halted the
  engine with nothing left to commit.
-/
structure Tallied
    (policy : RetryPolicy)
    (p : PartitionKey)
    (r : Except Stop Unit)
    (m : Moment) : Prop extends Counted policy p m where
  budgeted :
    ∃ r', Budgeted policy p r' m.history ∧ (r' = .ok () ∨ r' = r)
  halted :
    failuresInRow p m.history = policy.maxRetries.toNat →
      m.engine.pendingOf p = [] ∧
        m.engine.health.status? Component.storage.name =
          some (Engine.exhausted policy.maxRetries)

/- Calm events leave a count as it is. -/
theorem Counted.calm
    (hCounted : Counted policy p m)
    (hPolicy : m'.engine.policy = m.engine.policy)
    (hFailures :
      m'.engine.failures.get? p = m.engine.failures.get? p)
    (hCalm : Grows (Event.Calm p) m.history m'.history) :
    Counted policy p m' := by
  refine ⟨hPolicy.trans hCounted.policy_eq, ?_⟩
  have hBudget := hCounted.budget_eq
  rw [Engine.budgetOf] at hBudget ⊢
  rw [hFailures, hPolicy, failuresInRow_grows hCalm]
  exact hBudget

/-
  The moments at which a budget is left, from which the engine
  can go on.
-/
structure Spared
    (policy : RetryPolicy)
    (p : PartitionKey)
    (m : Moment) : Prop extends Counted policy p m where
  budgeted : Budgeted policy p (.ok ()) m.history

namespace Spared

theorem left
    (hSpared : Spared policy p m)
    (hPolicy : 1 ≤ policy.maxRetries.toNat) :
    failuresInRow p m.history < policy.maxRetries.toNat :=
  hSpared.budgeted.lt_maxRetries hPolicy rfl (List.nil_append _).symm

theorem tallied
    (hSpared : Spared policy p m)
    (hPolicy : 1 ≤ policy.maxRetries.toNat) :
    Tallied policy p r m := by
  refine ⟨hSpared.toCounted,
    ⟨_, hSpared.budgeted, .inl rfl⟩, ?_⟩
  intro hSpent
  exact absurd hSpent (Nat.ne_of_lt (hSpared.left hPolicy))

theorem calm
    (hSpared : Spared policy p m)
    (hPolicy : m'.engine.policy = m.engine.policy)
    (hFailures :
      m'.engine.failures.get? p = m.engine.failures.get? p)
    (hCalm : Grows (Event.Calm p) m.history m'.history) :
    Spared policy p m' :=
  ⟨hSpared.toCounted.calm hPolicy hFailures hCalm,
    hSpared.budgeted.calm hCalm⟩

end Spared

theorem Tallied.spared
    (hTallied : Tallied policy p (.ok ()) m) :
    Spared policy p m := by
  rcases hTallied.budgeted with ⟨_, hBudgeted, rfl | rfl⟩
  · exact ⟨hTallied.toCounted, hBudgeted⟩
  · exact ⟨hTallied.toCounted, hBudgeted⟩

/- A worker that is put back leaves a budget as it is. -/
theorem Worker.Ticked.spared
    {answer : FlushEnd}
    (hTicked : w.Ticked m.history answer w' h')
    (hAnswer : answer ≠ .failed)
    (hSpared : Spared policy p m) :
    Spared policy p ⟨m.engine.putWorker p w', h'⟩ :=
  hSpared.calm rfl rfl (hTicked.calm hAnswer)

/- A batch that was stored and acknowledged clears the budget. -/
theorem Settled.spared_of_committed
    {elapsed : Span}
    {b : CommittedBatch}
    (hSettled : Settled p elapsed m (.committed b) r m')
    (hKey : b.last.key = p)
    (hSpared : Spared policy p m) :
    Spared policy p m' := by
  have hHere := Grows.refl (Event.Calm p) m.history
  have hPolicy := hSettled.policy_eq
  cases hSettled with
  | acknowledged b =>
      have hNone :
          ((m.engine.acknowledged b).recovered p).failures.get? p =
            none := by
        simp only [Engine.recovered]
        split <;> simp [Engine.mark]
      have hClears :
          Event.Clears p (.commit b.last (.done (.ok ()))) :=
        hKey
      refine ⟨⟨hPolicy.trans hSpared.policy_eq, ?_⟩,
        hSpared.budgeted.aside id id⟩
      rw [failuresInRow_of_clears hClears, Engine.budgetOf, hNone,
        hPolicy, hSpared.policy_eq]
      rfl
  | unacknowledged b =>
      exact hSpared.calm rfl rfl (.cons hHere ⟨id, id, id⟩)
  | lost b =>
      exact hSpared.calm rfl rfl (.cons hHere ⟨id, id, id⟩)

/- A failed batch is counted, whatever the reaction. -/
theorem Settled.budgetOf_eq_of_failed
    {elapsed : Span}
    (hSettled : Settled p elapsed m .failed r m') :
    m'.engine.budgetOf p =
      (m.engine.budgetOf p).countFailure := by
  have hNoted := m.engine.budgetOf_noteFailure p elapsed
  cases hSettled with
  | halted => exact hNoted
  | unsent => exact hNoted
  | untracked => exact hNoted
  | waited => exact hNoted

theorem Settled.pendingOf_eq
    {elapsed : Span}
    {answer : FlushEnd}
    (hSettled : Settled p elapsed m answer r m') :
    m'.engine.pendingOf q = m.engine.pendingOf q := by
  rw [Engine.pendingOf, hSettled.workers_eq]
  rfl

/-
  A failed batch is reacted to by its number in the row, and
  an engine that halts for it reports its storage exhausted.
-/
theorem Settled.reaction
    {elapsed : Span}
    {now : Timestamp}
    {offset : Int64}
    {n : Nat}
    (hSettled : Settled p elapsed m .failed r m')
    (hClock : m.history = .clock now :: h)
    (hBudget : m.engine.budgetOf p = ⟨policy, UInt32.ofNat n⟩)
    (hLeft : n < policy.maxRetries.toNat)
    (hOffset : m.engine.redeliveryOf p = some offset) :
    (∃ answer,
        m'.history = answer ++ h ∧
          Reaction policy p offset (n + 1) r answer) ∧
      (n + 1 = policy.maxRetries.toNat →
        m'.engine.health.status? Component.storage.name =
          some (Engine.exhausted policy.maxRetries)) := by
  have hAct := FailureBudget.action_countFailure hLeft
  have hRetry
      {noise backoff : UInt64}
      (hAction :
        (m.engine.budgetOf p).countFailure.action noise =
          .retry backoff) :
      n + 1 < policy.maxRetries.toNat ∧
        policy.delay (UInt32.ofNat n) noise = backoff := by
    rw [hBudget, hAct] at hAction
    split at hAction
    case isTrue => cases hAction
    case isFalse hMore =>
      cases hAction
      exact ⟨by omega, rfl⟩
  cases hSettled with
  | halted noise consecutive hAction =>
      rw [hBudget, hAct] at hAction
      split at hAction
      case isFalse => cases hAction
      case isTrue hSpent =>
        cases hAction
        refine ⟨⟨[.noise noise, .clock now], ?_,
          .halt noise now hSpent⟩, fun _ => ?_⟩
        · rw [hClock]
          rfl
        · simp [Engine.mark, Health.mark, Health.set,
            Health.status?]
  | unsent noise backoff target cause hAction hTarget =>
      rcases hRetry hAction with ⟨hMore, -⟩
      cases hOffset.symm.trans hTarget
      refine ⟨⟨_, ?_, .unsent noise now cause hMore⟩,
        fun hSpent => absurd hSpent (Nat.ne_of_lt hMore)⟩
      rw [hClock]
      rfl
  | untracked noise backoff target fault hAction hTarget hFault =>
      rcases hRetry hAction with ⟨hMore, -⟩
      cases hOffset.symm.trans hTarget
      refine ⟨⟨_, ?_, .untracked noise now fault hMore
          (OffsetTracker.subInt_of_rewind hFault)⟩,
        fun hSpent => absurd hSpent (Nat.ne_of_lt hMore)⟩
      rw [hClock]
      rfl
  | waited noise backoff target offsets answer hAction hTarget
      hOffsets =>
      rcases hRetry hAction with ⟨hMore, rfl⟩
      cases hOffset.symm.trans hTarget
      refine ⟨⟨_, ?_, .wait noise now answer hMore⟩,
        fun hSpent => absurd hSpent (Nat.ne_of_lt hMore)⟩
      rw [hClock]
      rfl

/- A failed batch is tallied, also where it halts the engine. -/
theorem Settled.tallied_of_failed
    {elapsed : Span}
    {e : Engine}
    {now : Timestamp}
    {bad : UploadEnd}
    (hSettled :
      Settled p elapsed
        ⟨e, .clock now :: .upload f bad :: earlier⟩ .failed r m')
    (hFails : Event.Fails p (.upload f bad))
    (hOffset : e.redeliveryOf p = some (batchStart f earlier))
    (hEmpty : e.pendingOf p = [])
    (hSpared : Spared policy p ⟨e, earlier⟩)
    (hPolicy : 1 ≤ policy.maxRetries.toNat) :
    Tallied policy p r m' := by
  have hLeft := hSpared.left hPolicy
  rcases hSettled.reaction rfl hSpared.budget_eq hLeft hOffset with
    ⟨⟨answer, hAnswer, hReaction⟩, hExhausted⟩
  have hNumber :
      failuresInRow p m'.history = failuresInRow p earlier + 1 := by
    have hWhole :
        Reaction policy p (batchStart f earlier)
          (failuresInRow p earlier + 1) r ([] ++ answer) :=
      hReaction
    rw [hAnswer]
    exact hWhole.failuresInRow_eq hFails
  have hBudgeted :
      Budgeted policy p r (answer ++ .upload f bad :: earlier) :=
    .struck hSpared.budgeted hFails hReaction
  refine ⟨⟨?_, ?_⟩, ⟨r, ?_, .inr rfl⟩, ?_⟩
  · exact hSettled.policy_eq.trans hSpared.policy_eq
  · rw [hSettled.budgetOf_eq_of_failed, hNumber]
    exact (congrArg FailureBudget.countFailure
      hSpared.budget_eq).trans
        (FailureBudget.countFailure_ofNat hLeft)
  · rw [hAnswer]
    exact hBudgeted
  · intro hSpent
    exact ⟨hSettled.pendingOf_eq.trans hEmpty,
      hExhausted (hNumber.symm.trans hSpent)⟩

theorem Worked.tallied
    (hWorked : Worked p w m r m')
    (hWorker : w.Keyed p)
    (hSpared : Spared policy p m)
    (hPolicy : 1 ≤ policy.maxRetries.toNat) :
    Tallied policy p r m' := by
  cases hWorked with
  | cut hTicked =>
      exact (hTicked.spared nofun hSpared).tallied hPolicy
  | @settled answer w' h' _ _ elapsed hTicked hAnswer hSettled =>
      cases answer with
      | dropped => exact absurd rfl hAnswer
      | nothing =>
          have hTicking := hTicked.spared nofun hSpared
          cases hSettled
          exact hTicking.tallied hPolicy
      | committed b =>
          have hTicking := hTicked.spared nofun hSpared
          exact (hSettled.spared_of_committed
            (hTicked.last_key hWorker) hTicking).tallied hPolicy
      | failed =>
          rcases hTicked.failedUpload hWorker with
            ⟨hEmpty, now, uploads, offset, f, bad, earlier, rfl,
              hOffset, rfl, hFails, hCalm, rfl⟩
          have hBefore :
              Spared policy p ⟨m.engine.putWorker p w', earlier⟩ :=
            hSpared.calm rfl rfl hCalm
          apply hSettled.tallied_of_failed hFails _ _ hBefore hPolicy
          · rw [Engine.redeliveryOf_putWorker, hOffset]
          · rw [Engine.pendingOf_putWorker, hEmpty]

theorem Readied.spared
    (hReadied : Readied p m w m₁)
    (hSpared : Spared policy p m) :
    Spared policy p m₁ := by
  cases hReadied with
  | kept => exact hSpared
  | opened =>
      exact hSpared.calm rfl rfl
        ((Grows.refl _ _).cons ⟨id, id, id⟩)

/- An assignment keeps the budgets of its partitions, and only those. -/
theorem Spared.released
    (ps : List PartitionKey)
    (hSpared : Spared policy p m) :
    Spared policy p
      ⟨m.engine.keepOnly ps, .assigned (.ok ps) :: m.history⟩ := by
  by_cases hKept : p ∈ ps
  · have hFailures :
        (m.engine.keepOnly ps).failures.get? p =
          m.engine.failures.get? p := by
      simp [Engine.keepOnly, hKept]
    exact hSpared.calm rfl hFailures
      ((Grows.refl _ _).cons ⟨id, fun hGone => hGone hKept, id⟩)
  · have hNone :
        (m.engine.keepOnly ps).failures.get? p = none := by
      simp [Engine.keepOnly, hKept]
    have hClears : Event.Clears p (.assigned (.ok ps)) := hKept
    refine ⟨⟨hSpared.policy_eq, ?_⟩,
      hSpared.budgeted.aside id id⟩
    rw [failuresInRow_of_clears hClears, Engine.budgetOf, hNone]
    exact congrArg FailureBudget.fresh hSpared.policy_eq

theorem Own.tallied
    (hOwn : Own p m r m')
    (hSpared : Spared policy p m)
    (hPolicy : 1 ≤ policy.maxRetries.toNat) :
    Tallied policy p r m' := by
  cases hOwn with
  | @delivered f w m₁ _ _ hKey hReadied hWorker hWorked =>
      have hTaking :
          Spared policy p
            ⟨m.engine.taking f,
              .poll (.done (.fragment f)) :: m.history⟩ :=
        hSpared.calm rfl rfl
          ((Grows.refl _ _).cons ⟨id, id, id⟩)
      exact hWorked.tallied hWorker (hReadied.spared hTaking)
        hPolicy
  | released ps => exact (hSpared.released ps).tallied hPolicy
  | ticked hFound hWorker hWorked =>
      exact hWorked.tallied hWorker hSpared hPolicy

/- What happens to other partitions changes no budget. -/
theorem Apart.spared
    (hApart : Apart p m m')
    (hPolicy : m'.engine.policy = m.engine.policy)
    (hSpared : Spared policy p m) :
    Spared policy p m' := by
  rcases hApart.events with ⟨es, hEvents, hBeside⟩
  exact hSpared.calm hPolicy hApart.failures
    ⟨es, hEvents, fun e he => Event.calm_of_not_about (hBeside e he)⟩

/- A budget is tallied after every move of a running engine. -/
theorem Move.tallied
    (hMove : Move m r m')
    (hEngine : m.engine.Keyed)
    (hTallied : Tallied policy p (.ok ()) m)
    (hPolicy : 1 ≤ policy.maxRetries.toNat) :
    Tallied policy p r m' := by
  have hSpared := hTallied.spared
  rcases hMove.own_or_apart p hEngine with hOwn | hApart
  · exact hOwn.tallied hSpared hPolicy
  · exact (hApart.spared hMove.policy_eq hSpared).tallied hPolicy

/- The failures in a row never outnumber the policy's. -/
theorem Tallied.le
    (hTallied : Tallied policy p r m)
    (hPolicy : 1 ≤ policy.maxRetries.toNat) :
    failuresInRow p m.history ≤ policy.maxRetries.toNat := by
  rcases hTallied.budgeted with ⟨r', hBudgeted, -⟩
  rcases hBudgeted.lt_or_halted hPolicy (List.nil_append _).symm
    with hLeft | ⟨hSpent, -⟩
  · exact Nat.le_of_lt hLeft
  · exact Nat.le_of_eq hSpent

/- The counted failures are their number, which does not wrap. -/
theorem Tallied.toNat_failures
    (hTallied : Tallied policy p r m)
    (hPolicy : 1 ≤ policy.maxRetries.toNat) :
    (m.engine.budgetOf p).failures.toNat =
      failuresInRow p m.history := by
  have hTop := policy.maxRetries.toNat_lt
  have hFew := hTallied.le hPolicy
  rw [hTallied.budget_eq]
  exact Nat.mod_eq_of_lt (by omega)

end FragmentSink
