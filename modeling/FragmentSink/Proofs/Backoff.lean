import FragmentSink.Retry
import Mathlib

/-
  The arithmetic of backoff is exact.

  A delay is worked out in words.  Here it is worked out with
  operations that are checked, and none of them leaves its
  word as long as the noise is a reading of nanoseconds within
  a second.  So a delay is the exact scheduled one, or within a
  quarter of it.

  Main declarations:
    * `WordOps.checked`
    * `RetryPolicy.scheduled`
    * `RetryPolicy.checkedDelay`
    * `RetryPolicy.checkedDelay_eq_some`
    * `RetryPolicy.toNat_jittered`
    * `RetryPolicy.exact_delay`
-/

namespace FragmentSink

------------------------------------------------------------
-- Checked Operations
------------------------------------------------------------

namespace Word

/- The word of a number, if the number fits. -/
def ofNat? (n : Nat) : Option UInt64 :=
  if n < UInt64.size then some (UInt64.ofNat n) else none

/- The difference of two words, if it is not negative. -/
def difference? (a b : UInt64) : Option UInt64 :=
  if b ≤ a then some (a - b) else none

/- The remainder of a division, if the divisor is not zero. -/
def remainder? (a b : UInt64) : Option UInt64 :=
  if b = 0 then none else some (a % b)

theorem ofNat?_eq_some_iff {n : Nat} {a : UInt64} :
    ofNat? n = some a ↔ a.toNat = n := by
  unfold ofNat?
  split
  case isTrue hFits =>
    have hWord : (UInt64.ofNat n).toNat = n :=
      UInt64.toNat_ofNat_of_lt' hFits
    rw [Option.some_inj, ← UInt64.toNat_inj, hWord, eq_comm]
  case isFalse hLarge =>
    have hTop : a.toNat < UInt64.size := a.toNat_lt
    constructor
    · intro hNone
      cases hNone
    · intro hEq
      omega

end Word

/- Operations that give nothing where a result does not fit. -/
def WordOps.checked : WordOps Option where
  ofNat n := Word.ofNat? n
  add a b := Word.ofNat? (a.toNat + b.toNat)
  sub a b := Word.difference? a b
  mul a b := Word.ofNat? (a.toNat * b.toNat)
  rem a b := Word.remainder? a b

------------------------------------------------------------
-- Checked Delays
------------------------------------------------------------

namespace RetryPolicy

variable {d noise : UInt64}

/- A delay in milliseconds, or nothing where an operation leaves its word. -/
def checkedDelay
    (p : RetryPolicy)
    (attempt : UInt32)
    (noise : UInt64) : Option UInt64 :=
  p.delayIn .checked attempt noise

theorem toNat_jitterRange (d : UInt64) :
    (jitterRange d).toNat = d.toNat / 4 :=
  UInt64.toNat_div d 4

theorem toNat_twiceRange (d : UInt64) :
    (jitterRange d * 2).toNat = d.toNat / 4 * 2 := by
  have hTop := d.toNat_lt
  rw [UInt64.toNat_mul, toNat_jitterRange]
  exact Nat.mod_eq_of_lt (by simp only [UInt64.reduceToNat]; omega)

/- The width of the jitter is exact, and so it is not zero. -/
theorem toNat_jitterWidth (d : UInt64) :
    (jitterRange d * 2 + 1).toNat = d.toNat / 4 * 2 + 1 := by
  have hTop := d.toNat_lt
  rw [UInt64.toNat_add, toNat_twiceRange]
  exact Nat.mod_eq_of_lt (by simp only [UInt64.reduceToNat]; omega)

/-
  A jittered delay is the exact lower end of its range and the
  remainder of the noise.  The sum fits: a wide range leaves
  room for any noise below it, and a narrow one is that of a
  small delay.
-/
theorem toNat_jittered
    (hNoise : noise.toNat < 1000000000) :
    (jittered d noise).toNat =
      d.toNat - d.toNat / 4 +
        noise.toNat % (d.toNat / 4 * 2 + 1) := by
  have hTop := d.toNat_lt
  have hWidth :
      noise.toNat % (d.toNat / 4 * 2 + 1) < d.toNat / 4 * 2 + 1 :=
    Nat.mod_lt _ (Nat.succ_pos _)
  have hSmall :
      noise.toNat % (d.toNat / 4 * 2 + 1) ≤ noise.toNat :=
    Nat.mod_le _ _
  have hJittered :
      jittered d noise =
        Word.saturatingSub d (jitterRange d) +
          noise % (jitterRange d * 2 + 1) :=
    rfl
  rw [hJittered, UInt64.toNat_add, Word.toNat_saturatingSub,
    UInt64.toNat_mod, toNat_jitterWidth, toNat_jitterRange]
  exact Nat.mod_eq_of_lt (by omega)

/- No operation of a jittered delay leaves its word. -/
theorem jitteredIn_checked
    (hNoise : noise.toNat < 1000000000) :
    jitteredIn .checked d noise = some (jittered d noise) := by
  have hRange := toNat_jitterRange d
  have hWidth := toNat_jitterWidth d
  have hLess : jitterRange d ≤ d := by
    rw [UInt64.le_iff_toNat_le, hRange]
    exact Nat.div_le_self _ _
  have hWide : jitterRange d * 2 + 1 ≠ 0 := by
    intro hZero
    rw [hZero] at hWidth
    cases hWidth
  have hTwice :
      Word.ofNat? ((jitterRange d).toNat * (2 : UInt64).toNat) =
        some (jitterRange d * 2) := by
    rw [Word.ofNat?_eq_some_iff, toNat_twiceRange, hRange]
    rfl
  have hNext :
      Word.ofNat?
          ((jitterRange d * 2).toNat + (1 : UInt64).toNat) =
        some (jitterRange d * 2 + 1) := by
    rw [Word.ofNat?_eq_some_iff, hWidth, toNat_twiceRange]
    rfl
  have hSum :
      Word.ofNat?
          ((d - jitterRange d).toNat +
            (noise % (jitterRange d * 2 + 1)).toNat) =
        some (jittered d noise) := by
    rw [Word.ofNat?_eq_some_iff, toNat_jittered hNoise,
      UInt64.toNat_sub_of_le _ _ hLess, UInt64.toNat_mod, hWidth,
      hRange]
  simp only [jitteredIn, WordOps.checked, Word.remainder?,
    Word.difference?, hTwice, hNext, hSum, if_neg hWide,
    if_pos hLess, Option.bind_eq_bind, Option.bind_some]

/- Nor does any operation of a delay before jitter. -/
theorem plainDelayIn_checked
    (p : RetryPolicy)
    (attempt : UInt32) :
    p.plainDelayIn .checked attempt =
      some (p.plainDelay attempt) := by
  have hScale :
      Word.ofNat? (factor attempt) =
        some (.ofNat (factor attempt)) := by
    rw [Word.ofNat?_eq_some_iff, toNat_ofNat_factor]
  simp only [plainDelayIn, WordOps.checked, hScale,
    Option.bind_eq_bind, Option.bind_some]
  rfl

/- So none of a delay does. -/
theorem checkedDelay_eq_some
    (p : RetryPolicy)
    (attempt : UInt32)
    (hNoise : noise.toNat < 1000000000) :
    p.checkedDelay attempt noise =
      some (p.delay attempt noise) := by
  rw [delay_eq]
  simp only [checkedDelay, delayIn, plainDelayIn_checked,
    jitteredIn_checked hNoise, Option.bind_eq_bind,
    Option.bind_some]
  split <;> rfl

------------------------------------------------------------
-- Schedules
------------------------------------------------------------

/-
  The delay in exact milliseconds before jitter: the base is
  doubled for each attempt up to the twentieth, and cut at the
  longest delay.
-/
def scheduled (p : RetryPolicy) (attempt : UInt32) : Nat :=
  min p.longest.millis.toNat
    (p.base.millis.toNat * 2 ^ min attempt.toNat 20)

/- The longest delay is reached before doubling stops. -/
def ReachesLongest (p : RetryPolicy) : Prop :=
  p.longest.millis.toNat ≤ p.base.millis.toNat * 2 ^ 20

theorem toNat_plainDelay_eq_scheduled
    (p : RetryPolicy)
    (attempt : UInt32) :
    (p.plainDelay attempt).toNat = p.scheduled attempt := by
  rw [toNat_plainDelay, Nat.min_comm]
  rfl

/- Later attempts are not scheduled sooner. -/
theorem scheduled_mono
    (p : RetryPolicy)
    {attempt later : UInt32}
    (hLater : attempt ≤ later) :
    p.scheduled attempt ≤ p.scheduled later := by
  have hExponent : min attempt.toNat 20 ≤ min later.toNat 20 := by
    rw [UInt32.le_iff_toNat_le] at hLater
    omega
  have hPower := Nat.pow_le_pow_right (by decide : 0 < 2) hExponent
  have hScaled :=
    Nat.mul_le_mul_left p.base.millis.toNat hPower
  unfold scheduled
  omega

/- Where the longest delay is reached, doubling might as well go on. -/
theorem ReachesLongest.scheduled_eq
    {p : RetryPolicy}
    (hReaches : p.ReachesLongest)
    (attempt : UInt32) :
    p.scheduled attempt =
      min p.longest.millis.toNat
        (p.base.millis.toNat * 2 ^ attempt.toNat) := by
  unfold ReachesLongest at hReaches
  rcases Nat.le_total attempt.toNat 20 with hFew | hMany
  · rw [scheduled, Nat.min_eq_left hFew]
  · have hPower :=
      Nat.pow_le_pow_right (by decide : 0 < 2) hMany
    have hScaled :=
      Nat.mul_le_mul_left p.base.millis.toNat hPower
    rw [scheduled, Nat.min_eq_right hMany,
      Nat.min_eq_left hReaches,
      Nat.min_eq_left (Nat.le_trans hReaches hScaled)]

theorem reachesLongest_standard : standard.ReachesLongest := by
  unfold ReachesLongest
  decide

theorem reachesLongest_forBufferCommit (n : UInt32) :
    (forBufferCommit n).ReachesLongest := by
  have hLongest : (forBufferCommit n).longest = .ofSeconds 60 := rfl
  have hBase : (forBufferCommit n).base = .ofSeconds 1 := rfl
  rw [ReachesLongest, hLongest, hBase]
  decide

------------------------------------------------------------
-- Delays
------------------------------------------------------------

/-
  A delay is the scheduled one, or stays within a quarter of it
  with jitter, and no operation on the way to it leaves its
  word.  The schedule rises up to the longest delay.
-/
theorem exact_delay
    (p : RetryPolicy)
    (attempt : UInt32)
    (noise : UInt64)
    (hNoise : noise.toNat < 1000000000) :
    p.checkedDelay attempt noise = some (p.delay attempt noise) ∧
      (p.jitter = false →
        (p.delay attempt noise).toNat = p.scheduled attempt) ∧
      (p.jitter = true →
        p.scheduled attempt - p.scheduled attempt / 4 ≤
            (p.delay attempt noise).toNat ∧
          (p.delay attempt noise).toNat ≤
            p.scheduled attempt + p.scheduled attempt / 4) ∧
      (∀ later, attempt ≤ later →
        p.scheduled attempt ≤ p.scheduled later) ∧
      p.scheduled attempt ≤ p.longest.millis.toNat ∧
      (p.ReachesLongest →
        p.scheduled attempt =
          min p.longest.millis.toNat
            (p.base.millis.toNat * 2 ^ attempt.toNat)) ∧
      standard.ReachesLongest ∧
      ∀ n, (forBufferCommit n).ReachesLongest := by
  have hPlain := p.toNat_plainDelay_eq_scheduled attempt
  refine ⟨p.checkedDelay_eq_some attempt hNoise, ?_, ?_,
    fun _ => p.scheduled_mono, Nat.min_le_left _ _,
    fun hReaches => hReaches.scheduled_eq attempt,
    reachesLongest_standard, reachesLongest_forBufferCommit⟩
  · intro hExact
    rw [delay_eq, hExact]
    exact hPlain
  · intro hJitter
    have hDelay :
        p.delay attempt noise =
          jittered (p.plainDelay attempt) noise := by
      rw [delay_eq, hJitter, if_pos rfl]
    have hShift :
        noise.toNat % (p.scheduled attempt / 4 * 2 + 1) <
          p.scheduled attempt / 4 * 2 + 1 :=
      Nat.mod_lt _ (Nat.succ_pos _)
    rw [hDelay, toNat_jittered hNoise, hPlain]
    omega

/-
  The longest delay that a word can hold, after the last
  attempt that can be counted, with the greatest noise.
-/
theorem exact_delay_longest :
    let p : RetryPolicy :=
      ⟨.ofMillis 18446744073709551615,
        .ofMillis 18446744073709551615, 3, true⟩
    (999999999 : UInt64).toNat < 1000000000 ∧
      p.scheduled 4294967295 = 18446744073709551615 ∧
      p.delay 4294967295 999999999 = 13835058056282163711 ∧
      p.checkedDelay 4294967295 999999999 =
        some (p.delay 4294967295 999999999) ∧
      p.scheduled 0 ≤ p.scheduled 4294967295 := by
  have hNoise : (999999999 : UInt64).toNat < 1000000000 := by
    decide
  refine ⟨hNoise, by decide, by decide, ?_, ?_⟩
  · exact (exact_delay _ 4294967295 999999999 hNoise).1
  · exact (exact_delay _ 0 999999999 hNoise).2.2.2.1 4294967295
      (by decide)

end RetryPolicy

end FragmentSink
