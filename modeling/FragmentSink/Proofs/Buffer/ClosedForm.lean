import FragmentSink.Buffer.State
import Mathlib

/-
  The closed form of a buffer.

  A buffer that was opened at an instant and had sizes appended
  to it is known from the instant and from the number and the
  sum of the sizes alone.  So neither their order nor what was
  in an earlier buffer matters, and readiness only grows.

  Main declarations:
    * `BufferState.nanos_deadlineFrom`
    * `BufferState.ClosedForm`
    * `BufferState.ClosedForm.isReady_iff`
    * `BufferState.closedForm_of_appends`
-/

namespace FragmentSink

------------------------------------------------------------
-- Deadlines
------------------------------------------------------------

namespace Thresholds

/- The window of a buffer in nanoseconds, however long it is. -/
def window (t : Thresholds) : Int :=
  t.seconds.toNat * 1000000000

end Thresholds

namespace BufferState

variable {t : Thresholds}
variable {opened now later : Timestamp}
variable {size : UInt64}
variable {sizes sizes' more : List UInt64}
variable {s s' : BufferState}

/-
  A deadline is one window after the opening, or the last
  instant of the calendar if that comes first.  A window that
  is too long to measure is longer than the whole calendar.
-/
theorem nanos_deadlineFrom
    (hOpened : opened.InRange) :
    (deadlineFrom t opened).nanos =
      min (opened.nanos + t.window) Timestamp.latest.nanos := by
  rcases hOpened with ⟨hEarliest, -⟩
  simp only [Timestamp.le_def, Timestamp.earliest] at hEarliest
  simp only [deadlineFrom, Thresholds.window?, Thresholds.window]
  split
  case isTrue hMeasured =>
    simp only [Option.bind_some, Timestamp.shift?]
    split
    case isTrue hRange =>
      have hLatest := hRange.2
      simp only [Timestamp.le_def] at hLatest
      exact (Int.min_eq_left hLatest).symm
    case isFalse hRange =>
      simp only [Timestamp.InRange, Timestamp.le_def,
        Timestamp.earliest, Timestamp.latest] at hRange
      simp only [Option.getD_none, Timestamp.latest]
      omega
  case isFalse hLong =>
    simp only [Thresholds.longestWindow] at hLong
    simp only [Option.bind_none, Option.getD_none,
      Timestamp.latest]
    omega

------------------------------------------------------------
-- Closed Forms
------------------------------------------------------------

/- The exact sum of some sizes. -/
def total (sizes : List UInt64) : Nat :=
  (sizes.map UInt64.toNat).sum

@[simp] theorem total_append (sizes more : List UInt64) :
    total (sizes ++ more) = total sizes + total more := by
  simp [total]

/-
  A buffer with the given bounds that was opened at an instant
  and counts some sizes: its counters are exact up to the
  largest word, its deadline up to the last instant.
-/
structure ClosedForm
    (t : Thresholds)
    (opened : Timestamp)
    (sizes : List UInt64)
    (s : BufferState) : Prop where
  thresholds : s.thresholds = t
  count : s.count.toNat = min sizes.length Word.top
  bytes : s.bytes.toNat = min (total sizes) Word.top
  openedAt : s.openedAt = opened
  deadline :
    s.deadline.nanos =
      min (opened.nanos + t.window) Timestamp.latest.nanos

theorem closedForm_openAt
    (hOpened : opened.InRange) :
    (openAt t opened).ClosedForm t opened [] where
  thresholds := rfl
  count := by simp [openAt]
  bytes := by simp [openAt, total]
  openedAt := rfl
  deadline := nanos_deadlineFrom hOpened

namespace ClosedForm

/- One more size is counted and added, and leaves the instants. -/
theorem append
    (hForm : s.ClosedForm t opened sizes)
    (size : UInt64) :
    (s.append size).ClosedForm t opened (sizes ++ [size]) where
  thresholds := hForm.thresholds
  count := by
    rw [toNat_count_append, hForm.count, List.length_append,
      List.length_singleton]
    omega
  bytes := by
    have hSize : total [size] = size.toNat := by simp [total]
    rw [toNat_bytes_append, hForm.bytes, total_append, hSize]
    omega
  openedAt := hForm.openedAt
  deadline := hForm.deadline

/- So are any more of them. -/
theorem appendAll
    (hForm : s.ClosedForm t opened sizes)
    (more : List UInt64) :
    (s.appendAll more).ClosedForm t opened (sizes ++ more) := by
  induction more generalizing s sizes with
  | nil => simpa [BufferState.appendAll] using hForm
  | cons size more ih =>
      have hRest := ih (hForm.append size)
      rw [List.append_assoc, List.singleton_append] at hRest
      exact hRest

/- A closed form belongs to one buffer only. -/
theorem unique
    (hForm : s.ClosedForm t opened sizes)
    (hForm' : s'.ClosedForm t opened sizes) :
    s = s' := by
  have hCount : s.count = s'.count :=
    UInt64.toNat_inj.mp (hForm.count.trans hForm'.count.symm)
  have hBytes : s.bytes = s'.bytes :=
    UInt64.toNat_inj.mp (hForm.bytes.trans hForm'.bytes.symm)
  have hDeadline : s.deadline = s'.deadline :=
    congrArg Timestamp.mk
      (hForm.deadline.trans hForm'.deadline.symm)
  have hOpened := hForm.openedAt.trans hForm'.openedAt.symm
  have hThresholds := hForm.thresholds.trans hForm'.thresholds.symm
  cases s
  cases s'
  simp_all

/- The order of the sizes does not show. -/
theorem perm
    (hForm : s.ClosedForm t opened sizes)
    (hPerm : sizes.Perm sizes') :
    s.ClosedForm t opened sizes' := by
  refine { hForm with count := ?_, bytes := ?_ }
  · rw [← hPerm.length_eq]
    exact hForm.count
  · have hTotal : total sizes = total sizes' :=
      (hPerm.map UInt64.toNat).sum_nat
    rw [← hTotal]
    exact hForm.bytes

end ClosedForm

------------------------------------------------------------
-- Readiness
------------------------------------------------------------

/- A buffer is ready exactly when one of its bounds is reached. -/
theorem isReady_readinessAt_iff :
    (s.readinessAt now).isReady = true ↔
      s.thresholds.count ≤ s.count ∨
        s.thresholds.bytes ≤ s.bytes ∨ s.deadline ≤ now := by
  simp [Readiness.isReady, readinessAt, countReached,
    sizeReached, dueAt, or_assoc]

/- A bound that fits a word is reached by what is cut at the largest. -/
theorem toNat_le_min_top_iff (bound : UInt64) (n : Nat) :
    bound.toNat ≤ min n Word.top ↔ bound.toNat ≤ n := by
  have hBound := bound.toNat_lt
  simp only [Word.top, UInt64.size]
  omega

/-
  In closed form, a buffer is ready exactly when the number of
  its sizes, their exact sum or the clock reaches a bound.
-/
theorem ClosedForm.isReady_iff
    (hForm : s.ClosedForm t opened sizes) :
    (s.readinessAt now).isReady = true ↔
      t.count.toNat ≤ sizes.length ∨
        t.bytes.toNat ≤ total sizes ∨
          min (opened.nanos + t.window) Timestamp.latest.nanos ≤
            now.nanos := by
  rw [isReady_readinessAt_iff, UInt64.le_iff_toNat_le,
    UInt64.le_iff_toNat_le, Timestamp.le_def, hForm.thresholds,
    hForm.count, hForm.bytes, hForm.deadline,
    toNat_le_min_top_iff, toNat_le_min_top_iff]

/- A buffer that is ready stays ready, whatever is appended. -/
theorem ClosedForm.isReady_mono
    (hForm : s.ClosedForm t opened sizes)
    (hReady : (s.readinessAt now).isReady = true)
    (hLater : now ≤ later)
    (more : List UInt64) :
    ((s.appendAll more).readinessAt later).isReady = true := by
  rw [Timestamp.le_def] at hLater
  rw [hForm.isReady_iff] at hReady
  rw [(hForm.appendAll more).isReady_iff, List.length_append,
    total_append]
  rcases hReady with hCount | hBytes | hDue
  · exact .inl (Nat.le_add_right_of_le hCount)
  · exact .inr (.inl (Nat.le_add_right_of_le hBytes))
  · exact .inr (.inr (Int.le_trans hDue hLater))

------------------------------------------------------------
-- Histories of Appends
------------------------------------------------------------

/-
  A buffer equals its closed form after any appends.  It does
  not show their order, it is ready exactly when one of its
  bounds is reached and from then on, and the buffer it is
  renewed to does not remember it.
-/
theorem closedForm_of_appends
    (t : Thresholds)
    (opened : Timestamp)
    (hOpened : opened.InRange)
    (sizes : List UInt64)
    (s : BufferState)
    (hAppends : s = (openAt t opened).appendAll sizes) :
    s.ClosedForm t opened sizes ∧
      (∀ sizes', sizes'.Perm sizes →
        (openAt t opened).appendAll sizes' = s) ∧
      (∀ now,
        ((s.readinessAt now).isReady = true ↔
          t.count ≤ s.count ∨ t.bytes ≤ s.bytes ∨
            s.deadline ≤ now) ∧
        ((s.readinessAt now).isReady = true ↔
          t.count.toNat ≤ sizes.length ∨
            t.bytes.toNat ≤ total sizes ∨
              min (opened.nanos + t.window)
                  Timestamp.latest.nanos ≤
                now.nanos)) ∧
      (∀ now later more,
        (s.readinessAt now).isReady = true → now ≤ later →
          ((s.appendAll more).readinessAt later).isReady =
            true) ∧
      ∀ now, s.renewAt now = openAt t now := by
  have hForms (sizes : List UInt64) :
      ((openAt t opened).appendAll sizes).ClosedForm t opened
        sizes :=
    (closedForm_openAt hOpened).appendAll sizes
  have hForm := hForms sizes
  rw [← hAppends] at hForm
  refine ⟨hForm, ?_, ?_, ?_, ?_⟩
  · intro sizes' hPerm
    exact ((hForms sizes').perm hPerm).unique hForm
  · intro now
    refine ⟨?_, hForm.isReady_iff⟩
    rw [isReady_readinessAt_iff, hForm.thresholds]
  · intro now later more hReady hLater
    exact hForm.isReady_mono hReady hLater more
  · intro now
    rw [renewAt, hForm.thresholds]

/-
  The sum of the sizes and the window are both too large to be
  kept: the bytes stop at the largest word, and the deadline at
  the last instant.
-/
theorem closedForm_of_hugeAppends :
    let t : Thresholds :=
      ⟨3, 18446744073709551615, 18446744073709551615⟩
    let s := (openAt t ⟨0⟩).appendAll [18446744073709551615, 1]
    Timestamp.InRange ⟨0⟩ ∧
      s.count = 2 ∧
      s.bytes = 18446744073709551615 ∧
      s.deadline = Timestamp.latest ∧
      (s.readinessAt ⟨0⟩).reason = some .byteSize ∧
      s.ClosedForm t ⟨0⟩ [18446744073709551615, 1] ∧
      (openAt t ⟨0⟩).appendAll [1, 18446744073709551615] = s := by
  have hOpened : Timestamp.InRange ⟨0⟩ := by decide
  refine ⟨hOpened, by decide, by decide, by decide, by decide, ?_⟩
  have hForm :=
    closedForm_of_appends
      ⟨3, 18446744073709551615, 18446744073709551615⟩ ⟨0⟩ hOpened
      [18446744073709551615, 1] _ rfl
  exact ⟨hForm.1, hForm.2.1 _ (.swap _ _ _)⟩

end BufferState

end FragmentSink
