import FragmentSink.Number.Power
import FragmentSink.Time

/-
  Waiting between attempts: exponential backoff with a bound,
  a jitter of a quarter to either side, and a budget of
  consecutive failures.

  A delay is worked out once, with the operations on words as
  an argument: those of a machine give the delay that is
  waited for.

  Main declarations:
    * `WordOps`
    * `RetryPolicy.delayIn`
    * `RetryPolicy.delay`
    * `RetryPolicy.toNat_plainDelay`
-/

namespace FragmentSink

------------------------------------------------------------
-- Operations on Words
------------------------------------------------------------

/- Operations on words, and what becomes of a result that does not fit. -/
structure WordOps (m : Type → Type) where
  ofNat : Nat → m UInt64
  add : UInt64 → UInt64 → m UInt64
  sub : UInt64 → UInt64 → m UInt64
  mul : UInt64 → UInt64 → m UInt64
  rem : UInt64 → UInt64 → m UInt64

/- Those of a machine: results wrap around, but no difference is below zero. -/
def WordOps.machine : WordOps Id where
  ofNat n := UInt64.ofNat n
  add a b := a + b
  sub a b := Word.saturatingSub a b
  mul a b := a * b
  rem a b := a % b

------------------------------------------------------------
-- Backoff
------------------------------------------------------------

/- How long to wait between attempts, and how many to make. -/
structure RetryPolicy where
  base : Span
  longest : Span
  maxRetries : UInt32
  jitter : Bool
deriving DecidableEq, Repr

namespace RetryPolicy

/- The policy of polls and offset commits. -/
def standard : RetryPolicy :=
  ⟨.ofMillis 100, .ofSeconds 30, 10, true⟩

/- The policy of buffer commits, with the given number of attempts. -/
def forBufferCommit (maxRetries : UInt32) : RetryPolicy :=
  ⟨.ofSeconds 1, .ofSeconds 60, maxRetries, true⟩

/- The same policy with exact delays. -/
def withoutJitter (p : RetryPolicy) : RetryPolicy :=
  { p with jitter := false }

/- The power of two a delay is scaled by; it stops growing at the twentieth attempt. -/
def factor (attempt : UInt32) : Nat :=
  twoTo (min attempt.toNat 20)

/- The largest deviation of a jittered delay. -/
def jitterRange (d : UInt64) : UInt64 :=
  d / 4

section Operations

variable {m : Type → Type}
variable [Monad m]

/- The delay in milliseconds before jitter. -/
def plainDelayIn
    (ops : WordOps m)
    (p : RetryPolicy)
    (attempt : UInt32) : m UInt64 := do
  let scale ← ops.ofNat (factor attempt)
  return min (Word.saturatingMul p.base.millis scale)
    p.longest.millis

/- A delay moved by a reading of the clock's nanoseconds. -/
def jitteredIn
    (ops : WordOps m)
    (d noise : UInt64) : m UInt64 := do
  let twice ← ops.mul (jitterRange d) 2
  let width ← ops.add twice 1
  let shift ← ops.rem noise width
  let low ← ops.sub d (jitterRange d)
  ops.add low shift

/- The delay in milliseconds after an attempt; the noise matters only with jitter. -/
def delayIn
    (ops : WordOps m)
    (p : RetryPolicy)
    (attempt : UInt32)
    (noise : UInt64) : m UInt64 := do
  let d ← p.plainDelayIn ops attempt
  if p.jitter then jitteredIn ops d noise else return d

end Operations

/- The delay before jitter, as a machine works it out. -/
def plainDelay (p : RetryPolicy) (attempt : UInt32) : UInt64 :=
  (p.plainDelayIn .machine attempt).run

/- The delay with jitter, as a machine works it out. -/
def jittered (d noise : UInt64) : UInt64 :=
  (jitteredIn .machine d noise).run

/- The delay that is waited for. -/
def delay
    (p : RetryPolicy)
    (attempt : UInt32)
    (noise : UInt64) : UInt64 :=
  (p.delayIn .machine attempt noise).run

theorem delay_eq
    (p : RetryPolicy)
    (attempt : UInt32)
    (noise : UInt64) :
    p.delay attempt noise =
      if p.jitter then
        jittered (p.plainDelay attempt) noise
      else
        p.plainDelay attempt := by
  show (if p.jitter then _ else _ : Id UInt64).run = _
  split <;> rfl

theorem toNat_ofNat_factor (attempt : UInt32) :
    (UInt64.ofNat (factor attempt)).toNat = factor attempt := by
  have h : factor attempt ≤ twoTo 20 :=
    twoTo_le_twoTo (Nat.min_le_right _ _)
  exact UInt64.toNat_ofNat_of_lt' (Nat.lt_of_le_of_lt h (by decide))

/- The plain delay is the exact scaled base, cut at the longest delay. -/
theorem toNat_plainDelay (p : RetryPolicy) (attempt : UInt32) :
    (p.plainDelay attempt).toNat =
      min (p.base.millis.toNat * factor attempt)
        p.longest.millis.toNat := by
  have hTop : p.longest.millis.toNat ≤ Word.top := by
    have := p.longest.millis.toNat_lt
    simp only [Word.top, UInt64.size]
    omega
  have hMul :=
    Word.toNat_saturatingMul p.base.millis (.ofNat (factor attempt))
  rw [toNat_ofNat_factor] at hMul
  have hMin (a b : UInt64) :
      (min a b).toNat = min a.toNat b.toNat := by
    by_cases h : a ≤ b
    · have hLe : a.toNat ≤ b.toNat := UInt64.le_iff_toNat_le.mp h
      rw [show min a b = a from if_pos h, Nat.min_eq_left hLe]
    · have hLe : b.toNat ≤ a.toNat := by
        rw [UInt64.le_iff_toNat_le] at h
        omega
      rw [show min a b = b from if_neg h, Nat.min_eq_right hLe]
  have hPlain :
      p.plainDelay attempt =
        min (Word.saturatingMul p.base.millis
          (.ofNat (factor attempt))) p.longest.millis :=
    rfl
  rw [hPlain, hMin, hMul]
  omega

end RetryPolicy

------------------------------------------------------------
-- Failure Budgets
------------------------------------------------------------

/- What to do after a failure. -/
inductive FailureAction where
| retry (backoffMillis : UInt64)
| halt (consecutive : UInt32)
deriving DecidableEq, Repr

/- How often one partition has failed in a row. -/
structure FailureBudget where
  policy : RetryPolicy
  failures : UInt32
deriving DecidableEq, Repr

namespace FailureBudget

/- The largest number of failures that is counted. -/
def mostFailures : Nat := UInt32.size - 1

/- A budget of which nothing is used. -/
def fresh (p : RetryPolicy) : FailureBudget :=
  ⟨p, 0⟩

/- Count one more failure. -/
def countFailure (b : FailureBudget) : FailureBudget :=
  { b with
    failures :=
      UInt32.ofNat (min (b.failures.toNat + 1) mostFailures) }

/- The action that the counted failures ask for. -/
def action (b : FailureBudget) (noise : UInt64) : FailureAction :=
  if b.policy.maxRetries ≤ b.failures then
    .halt b.failures
  else
    .retry (b.policy.delay (b.failures - 1) noise)

/- Forget the failures. -/
def recordSuccess (b : FailureBudget) : FailureBudget :=
  fresh b.policy

theorem toNat_failures_countFailure (b : FailureBudget) :
    b.countFailure.failures.toNat =
      min (b.failures.toNat + 1) mostFailures := by
  have h : min (b.failures.toNat + 1) mostFailures < UInt32.size := by
    simp only [mostFailures, UInt32.size]
    omega
  simpa [countFailure] using Nat.mod_eq_of_lt h

end FailureBudget

end FragmentSink
