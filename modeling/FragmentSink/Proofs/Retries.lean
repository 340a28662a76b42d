import FragmentSink.Broker.Consumer
import FragmentSink.Proofs.Backoff
import Mathlib

/-
  Failures in a row, and what follows from them.

  A budget, the polls of a consumer and its commits of offsets
  each count failures on their own.  Here each count is tied
  to the history: the first two hold the failures since the
  last success, and a commit holds its own attempts.  What a
  consumer fails or succeeds at is read off the answers of the
  client, not off its own replies.

  Main declarations:
    * `failuresSinceSuccess`
    * `Consumer.retried_retryFrom`
    * `Consumer.Call.verdict`
    * `Consumer.callAll_eq_counted`
    * `Consumer.accounts_of_calls`
    * `RetryPolicy.waits_of_exact`
-/

namespace FragmentSink

------------------------------------------------------------
-- Failures in a Row
------------------------------------------------------------

/- What the end of an operation means for a count of failures. -/
inductive Verdict where
| success
| failure
| neither
deriving DecidableEq, Repr

/- How many failures there were since the last success. -/
def failuresSinceSuccess (history : List Verdict) : Nat :=
  (history.rtakeWhile (· ≠ .success)).count .failure

theorem failuresSinceSuccess_concat
    (history : List Verdict)
    (v : Verdict) :
    failuresSinceSuccess (history ++ [v]) =
      match v with
      | .success => 0
      | .failure => failuresSinceSuccess history + 1
      | .neither => failuresSinceSuccess history := by
  unfold failuresSinceSuccess
  rw [List.rtakeWhile_concat]
  cases v <;> simp

------------------------------------------------------------
-- Attempts in Order
------------------------------------------------------------

namespace Consumer

variable
  {p : RetryPolicy}
  {t : OffsetToken}
  {answer : Nat → Except String Unit}
  {attempt : Nat → Except KafkaError Unit}
  {noise : Nat → UInt64}
  {made : Nat}
  {tried : RetriedCommit}

/-
  What is left of a commit after `made` failed attempts: they
  go on up to the first success or the last one that a policy
  allows, and a delay stands between any two.
-/
structure Retried
    (p : RetryPolicy)
    (attempt : Nat → Except KafkaError Unit)
    (noise : Nat → UInt64)
    (made : Nat)
    (tried : RetriedCommit) : Prop where
  begun : made < tried.attempts
  bounded : tried.attempts ≤ max (made + 1) p.maxRetries.toNat
  last : tried.result = attempt (tried.attempts - 1)
  failed :
    ∀ i, made ≤ i → i + 1 < tried.attempts → attempt i ≠ .ok ()
  exhausted :
    tried.result ≠ .ok () →
      tried.attempts = max (made + 1) p.maxRetries.toNat
  waits :
    tried.delays =
      (List.range' made (tried.attempts - 1 - made)).map fun i =>
        p.delay (UInt32.ofNat (i + 1)) (noise i)

/- An attempt that succeeds ends a commit. -/
theorem Retried.success
    (hAttempt : attempt made = .ok ()) :
    Retried p attempt noise made ⟨.ok (), made + 1, []⟩ := by
  refine ⟨Nat.lt_succ_self _, Nat.le_max_left _ _,
    hAttempt.symm, ?_, fun hNot => absurd rfl hNot, by simp⟩
  intro i hMade hLess
  simp only at hLess
  omega

/- So does one that fails, where no more are allowed. -/
theorem Retried.lastFailure
    {why : KafkaError}
    (hAttempt : attempt made = .error why)
    (hLast : p.maxRetries.toNat ≤ made + 1) :
    Retried p attempt noise made ⟨.error why, made + 1, []⟩ := by
  have hAll : made + 1 = max (made + 1) p.maxRetries.toNat :=
    (Nat.max_eq_left hLast).symm
  refine ⟨Nat.lt_succ_self _, hAll.le, hAttempt.symm, ?_,
    fun _ => hAll, by simp⟩
  intro i hMade hLess
  simp only at hLess
  omega

/- Any other failure is followed by a delay and what is left. -/
theorem Retried.failure
    {why : KafkaError}
    (hAttempt : attempt made = .error why)
    (hMore : ¬ p.maxRetries.toNat ≤ made + 1)
    (hRest : Retried p attempt noise (made + 1) tried) :
    Retried p attempt noise made
      { tried with
        delays :=
          p.delay (UInt32.ofNat (made + 1)) (noise made) ::
            tried.delays } := by
  have hBegun := hRest.begun
  have hBounded := hRest.bounded
  refine ⟨by simp only; omega, by simp only; omega, hRest.last,
    ?_, ?_, ?_⟩
  · intro i hMade hLess
    rcases Nat.eq_or_lt_of_le hMade with rfl | hAfter
    · rw [hAttempt]
      intro hSuccess
      cases hSuccess
    · exact hRest.failed i hAfter hLess
  · intro hNot
    have hEnd := hRest.exhausted hNot
    simp only
    omega
  · have hLeft :
        tried.attempts - 1 - made =
          tried.attempts - 1 - (made + 1) + 1 := by
      omega
    simp only [hLeft, List.range'_succ, List.map_cons, hRest.waits]

theorem retried_retryFrom
    (p : RetryPolicy)
    (attempt : Nat → Except KafkaError Unit)
    (noise : Nat → UInt64)
    (made : Nat) :
    Retried p attempt noise made
      (retryFrom p attempt noise made) := by
  fun_induction retryFrom p attempt noise made with
  | case1 made hAttempt => exact .success hAttempt
  | case2 made why hAttempt hLast =>
      exact .lastFailure hAttempt hLast
  | case3 made why hAttempt hMore rest ih =>
      exact .failure hAttempt hMore ih

/-
  An attempt that faults is the first one and ends the commit.
  Otherwise every attempt comes to an end, and they are tried
  in order.
-/
theorem commitWithRetry_cases
    (c : Consumer)
    (t : OffsetToken)
    (answer : Nat → Except String Unit)
    (noise : Nat → UInt64) :
    (∃ fault,
      (∀ given, commitOnce t given = .error fault) ∧
        c.commitWithRetry t answer noise = .error fault) ∨
      ∃ attempt tried,
        (∀ i, commitOnce t (answer i) = .ok (attempt i)) ∧
          Retried c.policy attempt noise 0 tried ∧
          c.commitWithRetry t answer noise =
            .ok (tried,
              match tried.result with
              | .ok () => c.recordSuccess
              | .error _ => c) := by
  unfold commitWithRetry commitOnce
  rcases commitTarget t with fault | offset
  case error => exact .inl ⟨fault, fun _ => rfl, rfl⟩
  case ok =>
    refine .inr ⟨_, _, fun _ => rfl, retried_retryFrom .., ?_⟩
    simp only [Except.map]
    generalize retryFrom c.policy _ noise 0 = tried
    rcases tried.result with why | ⟨⟩ <;> rfl

/- After failures only, a commit is not over before its last attempt. -/
theorem Retried.attempts_eq_of_failed
    {k : Nat}
    (hTried : Retried p attempt noise 0 tried)
    (hFailed : ∀ i < k, attempt i ≠ .ok ())
    (hEarly : tried.attempts ≤ k) :
    tried.attempts = max 1 p.maxRetries.toNat := by
  have hBegun := hTried.begun
  apply hTried.exhausted
  rw [hTried.last]
  exact hFailed (tried.attempts - 1) (by omega)

/- The number of the first attempt that would succeed, or infinity. -/
noncomputable def firstSuccess
    (t : OffsetToken)
    (answer : Nat → Except String Unit) : ℕ∞ :=
  ⨅ (i : ℕ) (_ : commitOnce t (answer i) = .ok (.ok ())),
    ((i + 1 : ℕ) : ℕ∞)

theorem firstSuccess_le_iff {n : ℕ} :
    firstSuccess t answer ≤ n ↔
      ∃ i < n, commitOnce t (answer i) = .ok (.ok ()) := by
  constructor
  · intro hLe
    by_contra! hFailed
    have hLater : ((n + 1 : ℕ) : ℕ∞) ≤ firstSuccess t answer := by
      refine le_iInf₂ fun i hSuccess => ?_
      have hNot := mt (hFailed i) (not_not.mpr hSuccess)
      exact Nat.cast_le.mpr (by omega)
    have hLe := Nat.cast_le.mp (hLater.trans hLe)
    omega
  · rintro ⟨i, hLess, hSuccess⟩
    exact (iInf₂_le i hSuccess).trans (Nat.cast_le.mpr hLess)

/- A commit that succeeds ends with the first success. -/
theorem Retried.firstSuccess_eq
    (hTried : Retried p attempt noise 0 tried)
    (hAttempt : ∀ i, commitOnce t (answer i) = .ok (attempt i))
    (hResult : tried.result = .ok ()) :
    firstSuccess t answer = tried.attempts := by
  have hBegun := hTried.begun
  apply le_antisymm
  · refine firstSuccess_le_iff.mpr
      ⟨tried.attempts - 1, by omega, ?_⟩
    rw [hAttempt, ← hTried.last, hResult]
  · rw [← not_lt]
    intro hSooner
    rcases ENat.ne_top_iff_exists.mp hSooner.ne_top with ⟨n, hEq⟩
    rw [← hEq, Nat.cast_lt] at hSooner
    rcases firstSuccess_le_iff.mp hEq.ge with ⟨i, hLess, hSuccess⟩
    rw [hAttempt, Except.ok.injEq] at hSuccess
    exact hTried.failed i (Nat.zero_le _) (by omega) hSuccess

/- A commit that fails has made no attempt that would succeed. -/
theorem Retried.lt_firstSuccess
    (hTried : Retried p attempt noise 0 tried)
    (hAttempt : ∀ i, commitOnce t (answer i) = .ok (attempt i))
    (hResult : tried.result ≠ .ok ()) :
    (tried.attempts : ℕ∞) < firstSuccess t answer := by
  rw [← not_le, firstSuccess_le_iff]
  rintro ⟨i, hLess, hSuccess⟩
  rw [hAttempt, Except.ok.injEq] at hSuccess
  rcases Nat.eq_or_lt_of_le (Nat.succ_le_of_lt hLess) with
    hFinal | hEarlier
  · have hLast : i = tried.attempts - 1 := by omega
    rw [hLast, ← hTried.last] at hSuccess
    exact hResult hSuccess
  · exact hTried.failed i (Nat.zero_le _) hEarlier hSuccess

/-
  A commit with retries ends where an attempt faults.  If none
  does, it ends with the first success or with the last attempt
  that the policy allows, whichever comes first.
-/
inductive CommitEnds
    (c : Consumer)
    (t : OffsetToken)
    (answer : Nat → Except String Unit)
    (noise : Nat → UInt64) : Prop where
| faulted
    (fault : Fault)
    (hAttempts : ∀ given, commitOnce t given = .error fault)
    (hCommit : c.commitWithRetry t answer noise = .error fault)
| tried
    (tried : RetriedCommit)
    (later : Consumer)
    (hCommit : c.commitWithRetry t answer noise = .ok (tried, later))
    (hAttempts :
      (tried.attempts : ℕ∞) =
        min (firstSuccess t answer)
          (max 1 c.policy.maxRetries.toNat : ℕ))
    (hSuccess :
      tried.result = .ok () ↔
        firstSuccess t answer ≤ (max 1 c.policy.maxRetries.toNat : ℕ))
    (hFailure :
      tried.result ≠ .ok () →
        commitOnce t (answer (max 1 c.policy.maxRetries.toNat - 1)) =
          .ok tried.result)
    (hLater :
      later =
        match tried.result with
        | .ok () => { c with failures := 0 }
        | .error _ => c)

theorem commitEnds
    (c : Consumer)
    (t : OffsetToken)
    (answer : Nat → Except String Unit)
    (noise : Nat → UInt64) :
    CommitEnds c t answer noise := by
  rcases c.commitWithRetry_cases t answer noise with
    ⟨fault, hAttempts, hCommit⟩ |
      ⟨attempt, tried, hAttempt, hTried, hCommit⟩
  · exact .faulted fault hAttempts hCommit
  · by_cases hResult : tried.result = .ok ()
    · have hFirst := hTried.firstSuccess_eq hAttempt hResult
      have hWithin :
          firstSuccess t answer ≤
            (max 1 c.policy.maxRetries.toNat : ℕ) := by
        rw [hFirst]
        exact Nat.cast_le.mpr hTried.bounded
      refine .tried tried _ hCommit ?_
        (iff_of_true hResult hWithin)
        (fun hNot => absurd hResult hNot) rfl
      rw [min_eq_left hWithin, hFirst]
    · have hAll := hTried.exhausted hResult
      have hBeyond := hTried.lt_firstSuccess hAttempt hResult
      rw [Nat.zero_add] at hAll
      rw [hAll] at hBeyond
      refine .tried tried _ hCommit ?_
        (iff_of_false hResult hBeyond.not_ge) (fun _ => ?_) rfl
      · rw [min_eq_right hBeyond.le, hAll]
      · rw [hAttempt, hTried.last, hAll]

------------------------------------------------------------
-- Calls of a Consumer
------------------------------------------------------------

/- A call of a consumer, with what the client answers. -/
inductive Call where
| poll (answer : Option (Except String Fragment)) (noise : UInt64)
| commit
    (t : OffsetToken)
    (answer : Nat → Except String Unit)
    (noise : Nat → UInt64)

/-
  Whether the client can be asked to commit the offset after a
  fragment: that offset is a word, it is not below zero, and
  no zero stands in the topic.
-/
def CanCommit (t : OffsetToken) : Prop :=
  Word.FitsInt (t.offset.toInt + 1) ∧
    0 ≤ t.offset.toInt + 1 ∧
    '\x00' ∉ t.key.topic.toList

instance (t : OffsetToken) : Decidable (CanCommit t) :=
  inferInstanceAs (Decidable (_ ∧ _ ∧ _))

theorem commitTarget_eq_ok_iff {offset : Int64} :
    commitTarget t = .ok offset ↔
      offset.toInt = t.offset.toInt + 1 ∧
        '\x00' ∉ t.key.topic.toList := by
  have hNext :
      nextOffset t = .ok offset ↔
        offset.toInt = t.offset.toInt + 1 :=
    Word.addInt_eq_ok_iff
  rw [← hNext]
  unfold commitTarget handedOver
  cases nextOffset t with
  | error fault => simp [Except.bind]
  | ok next =>
      by_cases hZero : '\x00' ∈ t.key.topic.toList <;>
        simp [Except.bind, Except.map, hZero]

theorem canCommit_iff :
    CanCommit t ↔
      ∃ offset, commitTarget t = .ok offset ∧ 0 ≤ offset := by
  simp only [commitTarget_eq_ok_iff, CanCommit]
  constructor
  · rintro ⟨hFits, hBelow, hZero⟩
    have hNext := Int64.toInt_ofInt_of_le hFits.1 hFits.2
    refine ⟨.ofInt (t.offset.toInt + 1), ⟨hNext, hZero⟩, ?_⟩
    rw [Int64.le_iff_toInt_le, hNext]
    exact hBelow
  · rintro ⟨offset, ⟨hNext, hZero⟩, hBelow⟩
    rw [Int64.le_iff_toInt_le] at hBelow
    rw [← hNext]
    exact ⟨⟨offset.le_toInt, offset.toInt_lt⟩, hBelow, hZero⟩

/- An attempt succeeds where the client is asked and accepts. -/
theorem commitOnce_eq_ok_iff
    {given : Except String Unit} :
    commitOnce t given = .ok (.ok ()) ↔
      CanCommit t ∧ given.isOk := by
  rw [canCommit_iff]
  unfold commitOnce
  cases commitTarget t with
  | error fault => simp [Except.map]
  | ok offset =>
      by_cases hBelow : 0 ≤ offset
      · rcases given with why | ⟨⟩ <;>
          simp [commitAt, Except.map, Except.mapError, Except.isOk,
            Except.toBool, isCommittable, hBelow]
      · simp [commitAt, Except.map, isCommittable, hBelow]

/- So a commit succeeds in time where one of the answers in time does. -/
theorem succeeds_iff {n : ℕ} :
    (CanCommit t ∧ ∃ i < n, (answer i).isOk) ↔
      firstSuccess t answer ≤ n := by
  simp only [firstSuccess_le_iff, commitOnce_eq_ok_iff]
  constructor
  · rintro ⟨hCan, i, hLess, hOk⟩
    exact ⟨i, hLess, hCan, hOk⟩
  · rintro ⟨i, hLess, hCan, hOk⟩
    exact ⟨hCan, i, hLess, hOk⟩

/-
  What a call means for the count of failed polls, by what the
  client answers.  Only a poll can be a failure; a commit is a
  success if one of the attempts that it may make is.
-/
def Call.verdict (p : RetryPolicy) : Call → Verdict
| .poll none _ => .neither
| .poll (some (.ok _)) _ => .success
| .poll (some (.error _)) _ => .failure
| .commit t answer _ =>
    if
      CanCommit t ∧
        ∃ i < max 1 p.maxRetries.toNat, (answer i).isOk
    then .success
    else .neither

/- The failed polls of a history since the last success. -/
def failedPolls (p : RetryPolicy) (calls : List Call) : Nat :=
  failuresSinceSuccess (calls.map (Call.verdict p))

/- The consumer that a call leaves. -/
def call (c : Consumer) : Call → Consumer
| .poll answer noise => (c.polled answer noise).2
| .commit t answer noise =>
    match c.commitWithRetry t answer noise with
    | .ok (_, later) => later
    | .error _ => c

/- The consumer that calls leave, made in their order. -/
def callAll (c : Consumer) (calls : List Call) : Consumer :=
  calls.foldl call c

/- A consumer that has not been called yet. -/
def fresh (topic : String) (p : RetryPolicy) : Consumer :=
  ⟨topic, p, 0⟩

/- A call changes the count of failed polls as the answers ask. -/
theorem call_eq
    (c : Consumer)
    (next : Call) :
    c.call next =
      match next.verdict c.policy with
      | .success => { c with failures := 0 }
      | .failure => { c with failures := c.failures + 1 }
      | .neither => c := by
  cases next with
  | poll answer noise =>
      rcases answer with _ | why | f <;> rfl
  | commit t answer noise =>
      have hSucceeds :=
        @succeeds_iff t answer (max 1 c.policy.maxRetries.toNat)
      rw [call, Call.verdict]
      rcases c.commitEnds t answer noise with
        ⟨fault, hAttempts, hFault⟩ |
          ⟨tried, later, hCommit, -, hSuccess, -, hLater⟩
      · have hNever :
            ¬ firstSuccess t answer ≤
              (max 1 c.policy.maxRetries.toNat : ℕ) := by
          rw [firstSuccess_le_iff]
          rintro ⟨i, -, hSuccess⟩
          rw [hAttempts] at hSuccess
          cases hSuccess
        rw [hFault, if_neg (mt hSucceeds.mp hNever)]
      · rw [hCommit, hLater]
        rw [← hSucceeds] at hSuccess
        cases hResult : tried.result with
        | ok done => rw [if_pos (hSuccess.mp hResult)]
        | error why =>
            rw [if_neg (mt hSuccess.mpr (by simp [hResult]))]

/- The consumer counts the failed polls since the last success. -/
theorem callAll_eq_counted
    (topic : String)
    (p : RetryPolicy)
    (calls : List Call) :
    (fresh topic p).callAll calls =
      ⟨topic, p, UInt32.ofNat (failedPolls p calls)⟩ := by
  induction calls using List.reverseRecOn with
  | nil => rfl
  | append_singleton calls next ih =>
      have hNext :
          failedPolls p (calls ++ [next]) =
            match next.verdict p with
            | .success => 0
            | .failure => failedPolls p calls + 1
            | .neither => failedPolls p calls := by
        rw [failedPolls, List.map_append, List.map_singleton]
        exact failuresSinceSuccess_concat _ _
      rw [callAll, List.foldl_concat, ← callAll, ih, call_eq, hNext]
      cases next.verdict p with
      | success => rfl
      | failure => simp [UInt32.ofNat_add]
      | neither => rfl

------------------------------------------------------------
-- Failure Accounting
------------------------------------------------------------

/-
  The account that a consumer gives after a history of calls.
  A failed poll is final exactly when it is at least the last
  failure that is allowed; a message is passed on and starts
  the count anew, and a quiet poll changes nothing.
-/
structure Accounts
    (p : RetryPolicy)
    (calls : List Call)
    (c : Consumer) : Prop where
  policy : c.policy = p
  counted : c.failures.toNat = failedPolls p calls
  failed :
    ∀ why noise, ∃ backoff goOn,
      (c.polled (some (.error why)) noise).1 =
          .failed (.kafka (.consumerGroup why)) backoff goOn ∧
        (goOn = false ↔
          p.maxRetries.toNat ≤ failedPolls p calls + 1)
  delivered :
    ∀ f noise,
      c.polled (some (.ok f)) noise =
        (.fragment f, { c with failures := 0 })
  quiet : ∀ noise, c.polled none noise = (.quiet, c)
  commits : ∀ t answer noise, CommitEnds c t answer noise

/-
  Whatever a consumer was asked before, and however the client
  answered, it gives this account.
-/
theorem accounts_of_calls
    (topic : String)
    (p : RetryPolicy)
    (calls : List Call)
    (hCounted : failedPolls p calls + 1 < UInt32.size) :
    Accounts p calls ((fresh topic p).callAll calls) := by
  rw [callAll_eq_counted]
  have hCount :
      (UInt32.ofNat (failedPolls p calls)).toNat =
        failedPolls p calls :=
    UInt32.toNat_ofNat_of_lt' (by omega)
  refine ⟨rfl, hCount, ?_, fun _ _ => rfl, fun _ => rfl,
    fun _ _ _ => commitEnds ..⟩
  intro why noise
  refine ⟨_, _, rfl, ?_⟩
  have hNext :
      (UInt32.ofNat (failedPolls p calls) + 1).toNat =
        failedPolls p calls + 1 := by
    rw [← UInt32.toNat_ofNat_of_lt' hCounted, UInt32.ofNat_add]
    rfl
  rw [decide_eq_false_iff_not, UInt32.lt_iff_toNat_lt, hNext,
    Nat.not_lt]

/- A policy with exact delays and three failures at most. -/
def threeFailures : RetryPolicy :=
  ⟨.ofMillis 100, .ofMillis 450, 3, false⟩

/-
  Failed polls with a message and a commit that succeeds at its
  second attempt in between.  Two of them come after that, with
  a quiet poll and a failed commit in between.
-/
def twoFailedPolls : List Call :=
  [.poll (some (.error "transport")) 0,
    .poll (some (.ok ⟨.empty, 5, ⟨⟨"logs", 0⟩, 7⟩⟩)) 0,
    .poll (some (.error "transport")) 0,
    .commit ⟨⟨"logs", 0⟩, 7⟩
      (fun i => if i = 0 then .error "timed out" else .ok ())
      fun _ => 0,
    .poll (some (.error "transport")) 0,
    .poll none 0,
    .commit ⟨⟨"logs", 0⟩, 8⟩ (fun _ => .error "timed out") fun _ => 0,
    .poll (some (.error "transport")) 0]

/- The third failed poll since that commit is the final one. -/
theorem accounts_of_thirdFailure :
    failedPolls threeFailures twoFailedPolls + 1 < UInt32.size ∧
      failedPolls threeFailures (twoFailedPolls.take 1) = 1 ∧
      failedPolls threeFailures (twoFailedPolls.take 2) = 0 ∧
      failedPolls threeFailures (twoFailedPolls.take 3) = 1 ∧
      failedPolls threeFailures (twoFailedPolls.take 4) = 0 ∧
      ∃ backoff,
        (((fresh "logs" threeFailures).callAll
            twoFailedPolls).polled (some (.error "gone")) 0).1 =
          .failed (.kafka (.consumerGroup "gone")) backoff false := by
  have hTwo : failedPolls threeFailures twoFailedPolls = 2 := by
    decide
  have hCounted :
      failedPolls threeFailures twoFailedPolls + 1 <
        UInt32.size := by
    rw [hTwo]
    decide
  rcases (accounts_of_calls "logs" threeFailures twoFailedPolls
    hCounted).failed "gone" 0 with ⟨backoff, goOn, hPoll, hGoOn⟩
  refine ⟨hCounted, by decide, by decide, by decide, by decide,
    backoff, ?_⟩
  rw [hPoll, hGoOn.mpr (by rw [hTwo]; decide)]

end Consumer

------------------------------------------------------------
-- Waits
------------------------------------------------------------

namespace FailureBudget

/- A budget after commits that have ended well or failed. -/
def after (p : RetryPolicy) (history : List Verdict) : FailureBudget :=
  history.foldl
    (fun b v =>
      match v with
      | .success => b.recordSuccess
      | .failure => b.countFailure
      | .neither => b)
    (fresh p)

/- A budget counts the failures since the last success. -/
theorem after_eq_counted
    (p : RetryPolicy)
    (history : List Verdict) :
    (after p history).policy = p ∧
      (after p history).failures.toNat =
        min (failuresSinceSuccess history) mostFailures := by
  induction history using List.reverseRecOn with
  | nil => exact ⟨rfl, rfl⟩
  | append_singleton history v ih =>
      rcases ih with ⟨hPolicy, hFailures⟩
      rw [failuresSinceSuccess_concat, after, List.foldl_concat]
      rw [after] at hPolicy hFailures
      cases v with
      | success => exact ⟨hPolicy, rfl⟩
      | failure =>
          refine ⟨hPolicy, ?_⟩
          simp only [toNat_failures_countFailure, hFailures]
          omega
      | neither => exact ⟨hPolicy, hFailures⟩

end FailureBudget

namespace RetryPolicy

open Consumer

/-
  When the users of a policy go on after their `k`-th failure
  in a row, and when they give up.  All of them give up with
  the last failure that is allowed.  Before that, a budget
  begins with the base delay; polls and commits of offsets
  are one doubling ahead of it.
-/
structure Waits (p : RetryPolicy) : Prop where
  budgets :
    ∀ history noise k, failuresSinceSuccess history + 1 = k →
      let action :=
        (FailureBudget.after p history).countFailure.action noise
      (k < p.maxRetries.toNat →
        action = .retry (p.plainDelay (UInt32.ofNat (k - 1)))) ∧
      (k = p.maxRetries.toNat → action = .halt p.maxRetries)
  polls :
    ∀ topic calls why noise k,
      failedPolls p calls + 1 = k →
      let result :=
        (((fresh topic p).callAll calls).polled
          (some (.error why)) noise).1
      let cause := Error.kafka (.consumerGroup why)
      (k < p.maxRetries.toNat →
        result =
          .failed cause (p.plainDelay (UInt32.ofNat k)) true) ∧
      (k = p.maxRetries.toNat →
        result =
          .failed cause (p.plainDelay (UInt32.ofNat k)) false)
  commits :
    ∀ (c : Consumer) t answer noise tried later, c.policy = p →
      c.commitWithRetry t answer noise = .ok (tried, later) →
      ∀ k, 0 < k →
        (∀ i < k, commitOnce t (answer i) ≠ .ok (.ok ())) →
        (k < p.maxRetries.toNat →
          tried.delays[k - 1]? =
            some (p.plainDelay (UInt32.ofNat k))) ∧
        (k = p.maxRetries.toNat →
          tried.attempts = k ∧
            tried.delays.length = k - 1 ∧
            commitOnce t (answer (k - 1)) = .ok tried.result)

theorem delay_of_exact
    {p : RetryPolicy}
    (hExact : p.jitter = false)
    (attempt : UInt32)
    (noise : UInt64) :
    p.delay attempt noise = p.plainDelay attempt := by
  rw [delay_eq, hExact]
  rfl

/- Numbers up to that of the last failure fit their word. -/
theorem toNat_ofNat_of_le_maxRetries
    {p : RetryPolicy}
    {k : Nat}
    (hLast : k ≤ p.maxRetries.toNat) :
    (UInt32.ofNat k).toNat = k :=
  UInt32.toNat_ofNat_of_lt'
    (Nat.lt_of_le_of_lt hLast p.maxRetries.toNat_lt)

theorem action_of_exact
    {p : RetryPolicy}
    (hExact : p.jitter = false)
    (history : List Verdict)
    (noise : UInt64)
    {k : Nat}
    (hCount : failuresSinceSuccess history + 1 = k)
    (hLast : k ≤ p.maxRetries.toNat) :
    (FailureBudget.after p history).countFailure.action noise =
      if p.maxRetries.toNat ≤ k then
        .halt (UInt32.ofNat k)
      else
        .retry (p.plainDelay (UInt32.ofNat (k - 1))) := by
  rcases FailureBudget.after_eq_counted p history with
    ⟨hPolicy, hFailures⟩
  have hMost := p.maxRetries.toNat_lt
  have hNumber := toNat_ofNat_of_le_maxRetries hLast
  have hCounted :
      (FailureBudget.after p history).countFailure.failures =
        UInt32.ofNat k := by
    rw [← UInt32.toNat_inj, hNumber,
      FailureBudget.toNat_failures_countFailure, hFailures]
    simp only [FailureBudget.mostFailures, UInt32.size]
    omega
  have hBefore :
      UInt32.ofNat k - 1 = UInt32.ofNat (k - 1) := by
    rw [← hCount, UInt32.ofNat_add]
    simp
  have hSame :
      (FailureBudget.after p history).countFailure.policy = p :=
    hPolicy
  rw [FailureBudget.action, hSame, hCounted, hBefore,
    delay_of_exact hExact]
  simp only [UInt32.le_iff_toNat_le, hNumber]

/- The delays of a commit that goes on are those of its attempts. -/
theorem delays_of_exact
    {p : RetryPolicy}
    (hExact : p.jitter = false)
    {attempt : Nat → Except KafkaError Unit}
    {noise : Nat → UInt64}
    {k : Nat}
    {tried : RetriedCommit}
    (hTried : Retried p attempt noise 0 tried)
    (hSome : 0 < k)
    (hMore : k < tried.attempts) :
    tried.delays[k - 1]? = some (p.plainDelay (UInt32.ofNat k)) := by
  have hNext : k - 1 + 1 = k := by omega
  rw [hTried.waits, List.getElem?_map,
    List.getElem?_range' (by omega), Option.map_some,
    delay_of_exact hExact, Nat.zero_add, Nat.one_mul, hNext]

/- So a poll that fails goes on, and waits, as its number says. -/
theorem polled_of_exact
    {p : RetryPolicy}
    (hExact : p.jitter = false)
    (topic : String)
    (calls : List Call)
    (why : String)
    (noise : UInt64)
    {k : Nat}
    (hCount : failedPolls p calls + 1 = k)
    (hLast : k ≤ p.maxRetries.toNat) :
    (((fresh topic p).callAll calls).polled
        (some (.error why)) noise).1 =
      .failed (.kafka (.consumerGroup why))
        (p.plainDelay (UInt32.ofNat k))
        (decide (k < p.maxRetries.toNat)) := by
  have hConsumer := callAll_eq_counted topic p calls
  have hFailures :
      ((fresh topic p).callAll calls).failures + 1 =
        UInt32.ofNat k := by
    rw [congrArg Consumer.failures hConsumer, ← hCount,
      UInt32.ofNat_add]
    rfl
  simp only [polled, hFailures, congrArg Consumer.policy hConsumer,
    delay_of_exact hExact, UInt32.lt_iff_toNat_lt,
    toNat_ofNat_of_le_maxRetries hLast]

/- A commit whose first attempts fail goes on to the last one. -/
theorem commit_of_exact
    {c : Consumer}
    {t : OffsetToken}
    {answer : Nat → Except String Unit}
    {noise : Nat → UInt64}
    {tried : RetriedCommit}
    {later : Consumer}
    {k : Nat}
    (hExact : c.policy.jitter = false)
    (hCommit :
      c.commitWithRetry t answer noise = .ok (tried, later))
    (hSome : 0 < k)
    (hFailed : ∀ i < k, commitOnce t (answer i) ≠ .ok (.ok ())) :
    (k < c.policy.maxRetries.toNat →
      tried.delays[k - 1]? =
        some (c.policy.plainDelay (UInt32.ofNat k))) ∧
    (k = c.policy.maxRetries.toNat →
      tried.attempts = k ∧
        tried.delays.length = k - 1 ∧
        commitOnce t (answer (k - 1)) = .ok tried.result) := by
  rcases c.commitWithRetry_cases t answer noise with
    ⟨fault, -, hFault⟩ | ⟨attempt, made, hAttempt, hTried, hEnd⟩
  · rw [hFault] at hCommit
    cases hCommit
  · rw [hEnd, Except.ok.injEq, Prod.mk.injEq] at hCommit
    rcases hCommit with ⟨rfl, -⟩
    have hBounded := hTried.bounded
    have hOver :=
      hTried.attempts_eq_of_failed fun i hLess hSuccess =>
        hFailed i hLess (by rw [hAttempt, hSuccess])
    rw [Nat.zero_add] at hBounded
    constructor
    · intro hMore
      exact delays_of_exact hExact hTried hSome (by omega)
    · intro hLast
      have hAll : made.attempts = k := by omega
      refine ⟨hAll, ?_, ?_⟩
      · rw [hTried.waits, List.length_map, List.length_range',
          hAll]
        rfl
      · rw [hAttempt, hTried.last, hAll]

/- A policy without jitter is followed in this way. -/
theorem waits_of_exact
    (p : RetryPolicy)
    (hExact : p.jitter = false) :
    p.Waits := by
  refine ⟨?_, ?_, ?_⟩
  · intro history noise k hCount action
    constructor
    · intro hMore
      rw [show action = _ from
        action_of_exact hExact history noise hCount hMore.le,
        if_neg hMore.not_ge]
    · intro hLast
      rw [show action = _ from
        action_of_exact hExact history noise hCount hLast.le,
        if_pos hLast.ge, hLast, UInt32.ofNat_toNat]
  · intro topic calls why noise k hCount result cause
    constructor
    · intro hMore
      rw [show result = _ from
        polled_of_exact hExact topic calls why noise hCount
          hMore.le,
        decide_eq_true hMore]
    · intro hLast
      rw [show result = _ from
        polled_of_exact hExact topic calls why noise hCount
          hLast.le,
        decide_eq_false hLast.not_lt]
  · rintro c t answer noise tried later rfl hCommit k hSome hFailed
    exact commit_of_exact hExact hCommit hSome hFailed

/- The second failure in a row, which is not the last one yet. -/
theorem waits_of_secondFailure :
    threeFailures.jitter = false ∧
      (FailureBudget.after threeFailures
          [.failure]).countFailure.action 0 = .retry 200 ∧
      (((fresh "logs" threeFailures).callAll
          [.poll (some (.error "transport")) 0]).polled
            (some (.error "transport")) 0).1 =
        .failed (.kafka (.consumerGroup "transport")) 400 true := by
  have hWaits := waits_of_exact threeFailures rfl
  exact ⟨rfl,
    (hWaits.budgets [.failure] 0 2 (by decide)).1 (by decide),
    (hWaits.polls "logs" [.poll (some (.error "transport")) 0]
      "transport" 0 2 (by decide)).1 (by decide)⟩

/-
  After the first failure a budget waits for the base delay.
  A poll and a commit of an offset wait twice as long.
-/
theorem firstWait_ne_base_of_threeFailures :
    threeFailures.plainDelay 0 = 100 ∧
      (FailureBudget.after threeFailures
          []).countFailure.action 0 = .retry 100 ∧
      ((fresh "logs" threeFailures).polled
          (some (.error "transport")) 0).1 =
        .failed (.kafka (.consumerGroup "transport")) 200 true ∧
      ((fresh "logs" threeFailures).commitWithRetry
          ⟨⟨"logs", 0⟩, 7⟩ (fun _ => .error "timed out")
          fun _ => 0).map (·.1.delays) =
        .ok [200, 400] := by
  refine ⟨by decide, by decide, by decide, by cbv⟩

end RetryPolicy

end FragmentSink
